import Playground.Proofs.Completion.Cursor
import Playground.Proofs.Run.Verdict
import Playground.Service.Basic

/-!
# Refused requests

Whether a request is refused is decided before any work is done for it: it does not depend on the
toolchain, which is not used then and always used otherwise.

- `RefusesRun` and `RefusesCursor`: what is wrong with a request that is refused.
- `Decides`: what it is for a condition to decide whether a request is refused.
- `run_decides`, `diagnostics_decides`, `completion_decides` and `inspection_decides`: the first
  condition decides for runs and diagnoses, the second one for questions about the cursor.
- `handle_decides`: so it does for all requests, and only a run launches anything.
-/

namespace Playground

/-- A body that was accepted is that of a request. -/
theorem Workspace.exists_ofRequest_of_ofBytes {body : List UInt8} {w : Workspace}
    (h : ofBytes body = .ok w) : ∃ request, ofRequest request = .ok w := by
  unfold ofBytes at h
  split at h
  · obtain ⟨request, -, hrequest⟩ := Checks.bind_eq_ok_iff.mp h
    exact ⟨request, hrequest⟩
  · cases h

namespace Service

variable {τ : Type}

/-- A request for a run or a diagnosis is refused: there is no workspace in its body, or a budget
that it asks for is none. -/
def RefusesRun (s : Service τ) (headers : List Header) (body : List UInt8) : Prop :=
  (∃ cause, Workspace.ofBytes body = .error cause) ∨
    (∃ cause, timeoutHeader headers "Timeout" s.infrastructureTimeout s.maxTimeout =
      .error cause) ∨
    ∃ cause, timeoutHeader headers "User-Code-Timeout" s.userCodeTimeout s.maxTimeout =
      .error cause

/-- A request about the cursor is refused: there is no workspace in its body, or no position on the
entry buffer. -/
def RefusesCursor (body : List UInt8) : Prop :=
  (∃ cause, Workspace.ofBytes body = .error cause) ∨
    ∃ w b, Workspace.ofBytes body = .ok w ∧ w.entryBuffer = .ok b ∧ ¬ b.HasCursor

/-- A condition decides whether a request is refused: it is refused iff the condition holds, and
then the toolchain is not used. -/
structure Decides (answer : Toolchain τ → τ → HttpAnswer) (refuses : Prop) : Prop where
  status : ∀ t now, (answer t now).status = 400 ↔ refuses
  used : ∀ t now, (answer t now).used = [] ↔ refuses
  /-- What a refusal says depends neither on the toolchain nor on the time. -/
  same : refuses → ∀ t t' now now', answer t now = answer t' now'

/-- An answer that is no refusal, and for which the toolchain was used. -/
def Serves (a : HttpAnswer) : Prop :=
  a.status ≠ 400 ∧ a.used ≠ []

theorem decides_of_refused {answer : Toolchain τ → τ → HttpAnswer} {refuses : Prop}
    (hrefuses : refuses) (cause : Refusal) (hanswer : ∀ t now, answer t now = refused cause) :
    Decides answer refuses where
  status t now := by
    rw [hanswer]
    exact iff_of_true rfl hrefuses
  used t now := by
    rw [hanswer]
    exact iff_of_true rfl hrefuses
  same _ t t' now now' := by rw [hanswer, hanswer]

theorem decides_of_served {answer : Toolchain τ → τ → HttpAnswer} {refuses : Prop}
    (hserves : ¬ refuses) (hanswer : ∀ t now, Serves (answer t now)) : Decides answer refuses where
  status t now := iff_of_false (hanswer t now).1 hserves
  used t now := iff_of_false (hanswer t now).2 hserves
  same h := absurd h hserves

/-- A service with another toolchain. -/
def withToolchain (s : Service τ) (t : Toolchain τ) : Service τ :=
  { s with sandbox := { s.sandbox with toolchain := t } }

/-- An answer with something that was found. -/
theorem serves_found (found : Json) {used : List ToolUse} (hused : used ≠ []) :
    Serves ⟨200, some found, used⟩ :=
  ⟨by simp, hused⟩

variable (s : Service τ) (r : HttpRequest)

/-! ## Questions about the cursor -/

/-- A request about the cursor is refused with its workspace, or with its cursor, or it has both. -/
theorem cursor_cases (body : List UInt8) :
    (RefusesCursor body ∧ ∃ cause, Workspace.ofBytes body = .error cause) ∨
    (RefusesCursor body ∧ ∃ w cause, Workspace.ofBytes body = .ok w ∧
      w.cursor = .error (.refused cause)) ∨
    (¬ RefusesCursor body ∧ ∃ w b c, Workspace.ofBytes body = .ok w ∧ w.entryBuffer = .ok b ∧
      w.cursor = .ok c) := by
  cases hbody : Workspace.ofBytes body with
  | error cause => exact .inl ⟨.inl ⟨cause, hbody⟩, cause, rfl⟩
  | ok w =>
    obtain ⟨request, hw⟩ := Workspace.exists_ofRequest_of_ofBytes hbody
    obtain ⟨b, hentry⟩ := Workspace.exists_entryBuffer_of_ofRequest hw
    by_cases hcursor : b.HasCursor
    · obtain ⟨position, before, after, -, -, hc⟩ :=
        Workspace.cursor_of_hasCursor (Workspace.wellFormed_of_ofRequest hw) hentry hcursor
      refine .inr (.inr ⟨?_, w, b, _, rfl, hentry, hc⟩)
      rintro (⟨cause, hcause⟩ | ⟨w', b', hw', hentry', hnone⟩)
      · rw [hbody] at hcause
        cases hcause
      · obtain rfl := Except.ok.inj (hbody.symm.trans hw')
        obtain rfl := Except.ok.inj (hentry.symm.trans hentry')
        exact hnone hcursor
    · obtain ⟨cause, hcause⟩ := Workspace.cursor_of_not_hasCursor hentry hcursor
      exact .inr (.inl ⟨.inr ⟨w, b, hbody, hentry, hcursor⟩, w, cause, rfl, hcause⟩)

theorem completion_decides :
    Decides (fun t _ => (s.withToolchain t).completion r) (RefusesCursor r.body) := by
  rcases cursor_cases r.body with ⟨hrefuses, cause, hbody⟩ |
    ⟨hrefuses, w, cause, hbody, hcursor⟩ | ⟨hserves, w, b, c, hbody, hentry, hcursor⟩
  · refine decides_of_refused hrefuses cause fun t now => ?_
    rw [completion, hbody]
  · refine decides_of_refused hrefuses cause fun t now => ?_
    rw [completion, hbody]
    dsimp only
    rw [Workspace.complete, hcursor]
    rfl
  · refine decides_of_served hserves fun t now => ?_
    rw [completion, hbody]
    dsimp only
    rw [Workspace.complete, hcursor]
    exact serves_found _ (List.cons_ne_nil _ _)

theorem inspection_decides :
    Decides (fun t _ => (s.withToolchain t).inspection r) (RefusesCursor r.body) := by
  rcases cursor_cases r.body with ⟨hrefuses, cause, hbody⟩ |
    ⟨hrefuses, w, cause, hbody, hcursor⟩ | ⟨hserves, w, b, c, hbody, hentry, hcursor⟩
  · refine decides_of_refused hrefuses cause fun t now => ?_
    rw [inspection, hbody]
  · refine decides_of_refused hrefuses cause fun t now => ?_
    rw [inspection, hbody]
    dsimp only
    rw [Workspace.inspect, hcursor]
    rfl
  · refine decides_of_served hserves fun t now => ?_
    -- the entry buffer is looked up once more for the answer, after the toolchain was asked
    have hinspect : w.inspect t = .ok (t.inspect c.text c.offset) := by
      rw [Workspace.inspect, hcursor]
      rfl
    rw [inspection, hbody]
    dsimp only
    rw [show w.inspect (s.withToolchain t).sandbox.toolchain = _ from hinspect, hentry]
    cases t.inspect c.text c.offset with
    | error cause => exact ⟨by simp [broken, detail], List.cons_ne_nil _ _⟩
    | ok found => exact serves_found _ (List.cons_ne_nil _ _)

/-- A request for suggestions only completes. -/
theorem used_completion : (s.completion r).used = [] ∨ (s.completion r).used = [.completed] := by
  unfold completion
  split
  · exact .inl rfl
  · split
    · exact .inr rfl
    · exact .inl rfl
    · exact .inl rfl

/-- A request about a name only inspects. -/
theorem used_inspection : (s.inspection r).used = [] ∨ (s.inspection r).used = [.inspected] := by
  unfold inspection
  split
  · exact .inl rfl
  · split
    · exact .inr rfl
    · exact .inr rfl
    · exact .inr rfl
    · exact .inl rfl
    · exact .inl rfl

/-! ## Runs and diagnoses -/

theorem runUse_ne_nil {α : Type} (record : RunRecord τ α) : runUse record ≠ [] := by
  unfold runUse
  split <;> exact List.cons_ne_nil _ _

variable [TimeScale τ]

/-- A run is requested in vain iff its workspace or one of its budgets is refused. -/
theorem runRequest_refuses_iff :
    (∃ cause, s.runRequest r = .error cause) ↔ s.RefusesRun r.headers r.body := by
  unfold runRequest budget RefusesRun
  cases Workspace.ofBytes r.body with
  | error cause => exact iff_of_true ⟨cause, rfl⟩ (.inl ⟨cause, rfl⟩)
  | ok w =>
    cases timeoutHeader r.headers "Timeout" s.infrastructureTimeout s.maxTimeout with
    | error cause => exact iff_of_true ⟨cause, rfl⟩ (.inr (.inl ⟨cause, rfl⟩))
    | ok infrastructure =>
      cases timeoutHeader r.headers "User-Code-Timeout" s.userCodeTimeout s.maxTimeout with
      | error cause => exact iff_of_true ⟨cause, rfl⟩ (.inr (.inr ⟨cause, rfl⟩))
      | ok userCode =>
        refine iff_of_false (fun ⟨_, h⟩ => nomatch h) ?_
        rintro (⟨_, h⟩ | ⟨_, h⟩ | ⟨_, h⟩) <;> cases h

/-- If all that matters at first is whether a run can be requested, that is what decides. -/
theorem decides_of_runRequest {answer : Toolchain τ → τ → HttpAnswer}
    (hrefused : ∀ cause, s.runRequest r = .error cause → ∀ t now, answer t now = refused cause)
    (hserved : ∀ request, s.runRequest r = .ok request → ∀ t now, Serves (answer t now)) :
    Decides answer (s.RefusesRun r.headers r.body) := by
  have hiff := s.runRequest_refuses_iff r
  cases hrequest : s.runRequest r with
  | error cause =>
    exact decides_of_refused (hiff.mp ⟨cause, hrequest⟩) cause (hrefused cause hrequest)
  | ok request =>
    refine decides_of_served (fun hrefuses => ?_) (hserved request hrequest)
    obtain ⟨cause, hcause⟩ := hiff.mpr hrefuses
    rw [hrequest] at hcause
    cases hcause

theorem used_failure (used : List ToolUse) (f : RunFailure τ) : (failure used f).used = used := by
  cases f <;> rfl

/-- No failure of a run is a refusal. -/
theorem serves_failure {used : List ToolUse} (hused : used ≠ []) (f : RunFailure τ) :
    Serves (failure used f) := by
  refine ⟨?_, by rwa [used_failure]⟩
  cases f <;> simp [failure, broken, detail]

theorem run_decides :
    Decides (fun t now => (s.withToolchain t).run r now) (s.RefusesRun r.headers r.body) := by
  refine s.decides_of_runRequest r (fun cause hrequest t now => ?_) fun request hrequest t now => ?_
  · rw [run, show (s.withToolchain t).runRequest r = .error cause from hrequest]
  · rw [run, show (s.withToolchain t).runRequest r = .ok request from hrequest]
    dsimp only
    split
    · exact serves_found _ (runUse_ne_nil _)
    · exact serves_failure (runUse_ne_nil _) _

theorem diagnostics_decides :
    Decides (fun t now => (s.withToolchain t).diagnostics r now)
      (s.RefusesRun r.headers r.body) := by
  refine s.decides_of_runRequest r (fun cause hrequest t now => ?_) fun request hrequest t now => ?_
  · rw [diagnostics, show (s.withToolchain t).runRequest r = .error cause from hrequest]
  · rw [diagnostics, show (s.withToolchain t).runRequest r = .ok request from hrequest]
    dsimp only
    split
    · exact serves_found _ (runUse_ne_nil _)
    · exact serves_failure (runUse_ne_nil _) _

/-- A diagnosis only compiles. -/
theorem used_diagnostics (now : τ) :
    (s.diagnostics r now).used = [] ∨ (s.diagnostics r now).used = [.compiled] := by
  rw [diagnostics]
  cases s.runRequest r with
  | error cause => exact .inl rfl
  | ok request =>
    have huse : runUse (s.sandbox.diagnose request.1 (some request.2) now) = [.compiled] := by
      have hnone : (s.sandbox.diagnose request.1 (some request.2) now).handle = none :=
        Sandbox.handle_compile ..
      rw [runUse, hnone]
      rfl
    dsimp only
    rw [huse]
    split
    · exact .inr rfl
    · exact .inr (used_failure _ _)

/-! ## Requests -/

/-- What is used for one other thing at most is not used for a launch. -/
theorem not_launched {used : List ToolUse} {use : ToolUse} (h : used = [] ∨ used = [use])
    (huse : use ≠ .launched) : .launched ∉ used := by
  rcases h with rfl | rfl
  · exact List.not_mem_nil
  · simpa using huse.symm

/-- Whether a request is refused is decided before the toolchain is used: for runs and diagnoses by
the workspace and the budgets, for questions about the cursor by the workspace and the position of
its entry buffer. Other requests than runs launch nothing, and what could be launched does not
matter to them. -/
theorem handle_decides (headers : List Header) (body : List UInt8) :
    let answer (path : String) (t : Toolchain τ) (now : τ) : HttpAnswer :=
      (s.withToolchain t).handle ⟨"POST", path, headers, body⟩ now
    Decides (answer "/workspace/run") (s.RefusesRun headers body) ∧
      Decides (answer "/workspace/diagnostics") (s.RefusesRun headers body) ∧
      Decides (answer "/workspace/completion") (RefusesCursor body) ∧
      Decides (answer "/workspace/inspect") (RefusesCursor body) ∧
      ∀ path ∈ ["/workspace/diagnostics", "/workspace/completion", "/workspace/inspect"],
        ∀ t now, .launched ∉ (answer path t now).used ∧
          ∀ canLaunch host, answer path { t with canLaunch, host } now = answer path t now := by
  intro answer
  refine ⟨s.run_decides ⟨"POST", "/workspace/run", headers, body⟩,
    s.diagnostics_decides ⟨"POST", "/workspace/diagnostics", headers, body⟩,
    s.completion_decides ⟨"POST", "/workspace/completion", headers, body⟩,
    s.inspection_decides ⟨"POST", "/workspace/inspect", headers, body⟩, ?_⟩
  intro path hpath t now
  simp only [List.mem_cons, List.not_mem_nil, or_false] at hpath
  rcases hpath with rfl | rfl | rfl
  · exact ⟨not_launched ((s.withToolchain t).used_diagnostics _ now) nofun, fun _ _ => rfl⟩
  · exact ⟨not_launched ((s.withToolchain t).used_completion _) nofun, fun _ _ => rfl⟩
  · exact ⟨not_launched ((s.withToolchain t).used_inspection _) nofun, fun _ _ => rfl⟩

end Service

end Playground
