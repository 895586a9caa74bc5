import Playground.Proofs.Run.Diagnosis
import Playground.Proofs.Toolchain.FrontEnd
import Playground.Source.FrontEnd

/-!
# Runs that break off

What a workspace says is reported, whatever it is, as long as its front end comes to an end. A null
character keeps it from that: it is not reported, and breaks the run off instead.

- `nullCharacter_mem_merged_iff`: a merged text has a null character iff one of its sources has.
- `run_of_broken` and `diagnose_of_broken`: a compilation that is broken off is all there is.
- `compile_run_break_off`: when a workspace has no outcome, and what a run and a diagnosis are then.
- `compile_null_character`: a workspace that is accepted and has no outcome.
-/

namespace Playground

namespace Workspace

/-- Whether there is a null character in a source of a workspace. -/
def HasNull (w : Workspace) : Prop :=
  (∃ u ∈ w.usings, '\x00' ∈ u.toList) ∨ ∃ b ∈ w.buffers, '\x00' ∈ b.content.toList

instance (w : Workspace) : Decidable w.HasNull :=
  inferInstanceAs (Decidable (_ ∨ _))

end Workspace

/-- Buffers are joined by line feeds and nothing else. -/
theorem mem_joined_iff {c : Char} (hc : c ≠ '\n') :
    ∀ {buffers : List Buffer}, c ∈ joined buffers ↔ ∃ b ∈ buffers, c ∈ b.content.toList
  | [] => by simp [joined]
  | [b] => by simp [joined]
  | b :: d :: rest => by
    rw [joined_cons_cons, List.mem_append, List.mem_cons, mem_joined_iff hc,
      List.exists_mem_cons_iff]
    simp [hc]

/-- A merged text has a null character iff one of its sources has. -/
theorem nullCharacter_mem_merged_iff (w : Workspace) :
    '\x00' ∈ w.merged.text.toList ↔ w.HasNull := by
  have hdirectives :
      '\x00' ∈ (usingLines w.usings).toList ↔ ∃ u ∈ w.usings, '\x00' ∈ u.toList := by
    rw [toList_usingLines, List.mem_flatMap]
    simp
  rw [Workspace.merged, mergeSources_toList_joined, List.mem_append, hdirectives,
    mem_joined_iff (by decide), Workspace.HasNull]

/-- The compilation of a workspace is broken off if a source has a null character, or if the front
end stops without finding a fault. -/
theorem Workspace.compile_broken_off_iff {τ ε σ : Type} {t : Toolchain τ} {f : FrontEnd ε σ}
    (hf : t.compile = f.compile) (w : Workspace) (cause : Breakdown) :
    w.compile t = .error cause ↔
      (w.HasNull ∧ cause = .nullCharacter) ∨
        (¬ w.HasNull ∧ f.Stops w.merged.text (Mode.ofKind w.kind) (.breakdown cause)) := by
  have hmap : w.compile t = .error cause ↔
      f.compile w.merged.text (Mode.ofKind w.kind) = .error cause := by
    rw [Workspace.compile, hf]
    cases f.compile w.merged.text (Mode.ofKind w.kind) with
    | error other =>
      constructor
      · rintro ⟨⟩
        rfl
      · rintro ⟨⟩
        rfl
    | ok c =>
      constructor
      · rintro ⟨⟩
      · rintro ⟨⟩
  rw [hmap, FrontEnd.compile_eq_error_iff, nullCharacter_mem_merged_iff]

/-- Whether it is what a workspace says that a run fails by: neither the time it takes, nor the
files, nor the host. -/
def RunFailure.isOfSources {τ : Type} : RunFailure τ → Bool
  | .missing _ | .breakdown _ => true
  | .compilationTimedOut _ | .startTimedOut .. | .userCodeTimedOut .. | .hostEnded .. | .file _ =>
    false

namespace RunRecord

variable {τ α : Type} {r : RunRecord τ α} {inTime : Bool}
  {compiled : Except Breakdown WorkspaceCompilation}

/-- What was begun with a compilation fails by the sources iff it has come as far as to learn that
the compilation is broken off. -/
def BreaksOff (r : RunRecord τ α) (inTime : Bool)
    (compiled : Except Breakdown WorkspaceCompilation) : Prop :=
  ∀ e, e.isOfSources = true → (r.answer = .error e ↔
    inTime = true ∧ ∃ cause, compiled = .error cause ∧ e = .breakdown cause)

theorem breaksOff_of_error {cause : Breakdown} (hanswer : r.answer = .error (.breakdown cause)) :
    r.BreaksOff true (.error cause) := by
  intro e _
  rw [hanswer]
  constructor
  · rintro ⟨⟩
    exact ⟨rfl, cause, rfl, rfl⟩
  · rintro ⟨-, _, ⟨⟩, rfl⟩
    rfl

/-- Without such a failure, and with an outcome as soon as it is in time, nothing is broken off. -/
theorem breaksOff_of_outcome (hanswer : ∀ e, r.answer = .error e → e.isOfSources = false)
    (hnone : inTime = true → ∃ c, compiled = .ok c) : r.BreaksOff inTime compiled := by
  intro e he
  refine iff_of_false (fun herror => ?_) fun ⟨htime, cause, hcause, _⟩ => ?_
  · rw [hanswer e herror] at he
    cases he
  · obtain ⟨c, hc⟩ := hnone htime
    rw [hc] at hcause
    cases hcause

/-- The course of a run that was launched leaves no place for a failure by its sources. -/
theorem Course.isOfSources {r : RunRecord τ RunResult} (hr : r.Course) {e : RunFailure τ}
    (he : r.answer = .error e) : e.isOfSources = false := by
  cases hr <;> cases he <;> rfl

end RunRecord

namespace Sandbox

variable {τ : Type} [TimeScale τ] {s : Sandbox τ} {w : Workspace} {budget : Option (RunBudget τ)}
  {now later : τ}

/-- A run ends with a compilation that is broken off. -/
theorem run_of_broken {cause : Breakdown}
    (hwait : (⟨now, (budget.getD s.defaultBudget).infrastructure⟩ : Deadline τ).waitFor now
      s.toolchain.compileTime s.pollInterval = (true, later))
    (hcompile : w.compile s.toolchain = .error cause) :
    s.run w budget now = ⟨.error (.breakdown cause), [.compiling], none, .empty, later⟩ := by
  simp [run, compile, hwait, hcompile, Except.mapError]

/-- A diagnosis ends with a compilation that is broken off. -/
theorem diagnose_of_broken {cause : Breakdown}
    (hwait : (⟨now, (budget.getD s.defaultBudget).infrastructure⟩ : Deadline τ).waitFor now
      s.toolchain.compileTime s.pollInterval = (true, later))
    (hcompile : w.compile s.toolchain = .error cause) :
    s.diagnose w budget now = ⟨.error (.breakdown cause), [.compiling], none, .empty, later⟩ := by
  simp [diagnose, compile, hwait, hcompile, Except.mapError, Except.bind]

/-- A launch does not fail by the sources. -/
theorem launch_isOfSources {b : RunBudget τ} {d : Deadline τ} {diagnostics : List Diagnostic}
    {e : RunFailure τ} (he : (s.launch w b d diagnostics now).answer = .error e) :
    e.isOfSources = false := by
  rcases s.launch_cases w b d diagnostics now with ⟨error, hlaunch⟩ | ⟨files, hlaunch⟩
  · rw [hlaunch] at he
    cases he
    rfl
  · rw [hlaunch] at he
    have hcourse :=
      follow_course (s := s) (b := b) (d := d) (h := .launch s.toolchain.host now) rfl diagnostics
        files now
    exact hcourse.1.isOfSources he

/-- A run whose compilation comes to an end does not fail by its sources. -/
theorem run_isOfSources {entry : Buffer} (hentry : w.entryBuffer = .ok entry)
    {c : WorkspaceCompilation}
    (hwait : (⟨now, (budget.getD s.defaultBudget).infrastructure⟩ : Deadline τ).waitFor now
      s.toolchain.compileTime s.pollInterval = (true, later))
    (hcompile : w.compile s.toolchain = .ok c) {e : RunFailure τ}
    (he : (s.run w budget now).answer = .error e) : e.isOfSources = false := by
  obtain ⟨ds, hmap, hformat⟩ := Diagnostic.exists_mapAll hentry c.reports
  rw [run_of_compiled hwait hcompile hmap] at he
  by_cases hsucceeded : c.succeeded = true
  · rw [if_pos hsucceeded] at he
    exact launch_isOfSources he
  · obtain ⟨lines, -, hrejected⟩ := exists_lines hformat
    rw [if_neg hsucceeded, hrejected] at he
    cases he

/-- The compilation of a workspace has an outcome unless a source has a null character or the front
end stops without finding a fault. A run and a diagnosis fail by the sources iff the compilation is
in time and has no outcome, and a diagnosis succeeds iff it is in time and has one. -/
theorem compile_run_break_off {ε σ : Type} {f : FrontEnd ε σ}
    (hf : s.toolchain.compile = f.compile) {request : Request}
    (hw : Workspace.ofRequest request = .ok w) :
    (∀ cause, w.compile s.toolchain = .error cause ↔
      (w.HasNull ∧ cause = .nullCharacter) ∨
        (¬ w.HasNull ∧ f.Stops w.merged.text (Mode.ofKind w.kind) (.breakdown cause))) ∧
    ∀ (budget : Option (RunBudget τ)) (now : τ),
      let infrastructure := (budget.getD s.defaultBudget).infrastructure
      let inTime := ((⟨now, infrastructure⟩ : Deadline τ).waitFor now s.toolchain.compileTime
        s.pollInterval).1
      (s.run w budget now).BreaksOff inTime (w.compile s.toolchain) ∧
        (s.diagnose w budget now).BreaksOff inTime (w.compile s.toolchain) ∧
        ((∃ ds, (s.diagnose w budget now).answer = .ok ds) ↔
          inTime = true ∧ ∃ c, w.compile s.toolchain = .ok c) := by
  obtain ⟨entry, hentry⟩ := Workspace.exists_entryBuffer_of_ofRequest hw
  refine ⟨w.compile_broken_off_iff hf, ?_⟩
  intro budget now infrastructure inTime
  obtain ⟨later, hwait⟩ : ∃ later, (⟨now, infrastructure⟩ : Deadline τ).waitFor now
      s.toolchain.compileTime s.pollInterval = (inTime, later) := ⟨_, rfl⟩
  cases htime : inTime with
  | false =>
    rw [htime] at hwait
    rw [run_of_late hwait, diagnose_of_late hwait]
    refine ⟨RunRecord.breaksOff_of_outcome ?_ fun h => (nomatch h),
      RunRecord.breaksOff_of_outcome ?_ fun h => (nomatch h),
      iff_of_false (fun ⟨_, h⟩ => nomatch h) fun h => nomatch h.1⟩
    · rintro e ⟨⟩
      rfl
    · rintro e ⟨⟩
      rfl
  | true =>
    rw [htime] at hwait
    cases hcompile : w.compile s.toolchain with
    | error cause =>
      rw [run_of_broken hwait hcompile, diagnose_of_broken hwait hcompile]
      exact ⟨RunRecord.breaksOff_of_error rfl, RunRecord.breaksOff_of_error rfl,
        iff_of_false (fun ⟨_, h⟩ => nomatch h) fun ⟨_, _, h⟩ => nomatch h⟩
    | ok c =>
      obtain ⟨ds, hmap, -⟩ := Diagnostic.exists_mapAll hentry c.reports
      rw [diagnose_of_compiled hwait hcompile hmap]
      exact ⟨RunRecord.breaksOff_of_outcome
          (fun e he => run_isOfSources hentry hwait hcompile he) fun _ => ⟨c, rfl⟩,
        RunRecord.breaksOff_of_outcome (fun e he => nomatch he) fun _ => ⟨c, rfl⟩,
        iff_of_true ⟨ds, rfl⟩ ⟨rfl, c, rfl⟩⟩

/-- A directive with a null character, and a front end that breaks off on long texts. -/
theorem compile_run_break_off_directive :
    let f : FrontEnd Unit Unit :=
      ⟨fun text => (if text.length < 40 then .ok [] else .error (.breakdown .deepText), []),
        fun _ _ => (.ok (), [])⟩
    let p : ToolchainPlan ℚ := ⟨[], true, false, [], none, 0, 0, 0, false, "", none⟩
    let s : Sandbox ℚ := ⟨{ Toolchain.ofPlan p with compile := f.compile }, ⟨5, 15⟩, 1 / 50⟩
    let request : Request :=
      { buffers := some [⟨"a", "x = 1", none⟩], usings := some ["import \x00"] }
    let w : Workspace :=
      ⟨"script", [⟨"a", "x = 1", none⟩], ["import \x00"], [], none⟩
    s.toolchain.compile = f.compile ∧ Workspace.ofRequest request = .ok w ∧ w.HasNull ∧
      w.compile s.toolchain = .error .nullCharacter ∧
      (s.run w none 3).answer = .error (.breakdown .nullCharacter) ∧
      (s.diagnose w none 3).answer = .error (.breakdown .nullCharacter) := by
  intro f p s request w
  have hw : Workspace.ofRequest request = .ok w := by decide
  have hnull : w.HasNull := by decide
  obtain ⟨hcompile, hall⟩ := compile_run_break_off (s := s) (f := f) rfl hw
  have hbroken := (hcompile .nullCharacter).mpr (.inl ⟨hnull, rfl⟩)
  have htime : ((⟨3, 5⟩ : Deadline ℚ).waitFor 3 s.toolchain.compileTime (1 / 50)).1 = true :=
    congrArg Prod.fst (waitFor_ofPlan (p := p) rfl (by norm_num) 3)
  obtain ⟨hrun, hdiagnose, -⟩ := hall none 3
  have hlearned : ∃ cause, w.compile s.toolchain = .error cause ∧
      (.breakdown .nullCharacter : RunFailure ℚ) = .breakdown cause := ⟨_, hbroken, rfl⟩
  exact ⟨rfl, hw, hnull, hbroken, (hrun _ rfl).mpr ⟨htime, hlearned⟩,
    (hdiagnose _ rfl).mpr ⟨htime, hlearned⟩⟩

/-- A request with a null character in its source is accepted, and its compilation is broken off. -/
theorem compile_null_character :
    let p : ToolchainPlan ℚ := ⟨[], true, false, [], none, 0, 0, 0, false, "", none⟩
    let t : Toolchain ℚ := { Toolchain.ofPlan p with compile := Source.frontEnd.compile }
    let s : Sandbox ℚ := ⟨t, ⟨5, 15⟩, 1 / 50⟩
    let request : Request := { source := some "a\x00b" }
    let w : Workspace := ⟨"script", [⟨"", "a\x00b", none⟩], [], [], none⟩
    Workspace.ofRequest request = .ok w ∧ w.compile t = .error .nullCharacter ∧
      (s.run w none 3).answer = .error (.breakdown .nullCharacter) ∧
      (s.diagnose w none 3).answer = .error (.breakdown .nullCharacter) := by
  intro p t s request w
  have hw : Workspace.ofRequest request = .ok w := by decide
  have hnull : w.HasNull := by decide
  have hcompile : w.compile t = .error .nullCharacter :=
    (Workspace.compile_broken_off_iff rfl w _).mpr (.inl ⟨hnull, rfl⟩)
  have hwait : (⟨3, 5⟩ : Deadline ℚ).waitFor 3 t.compileTime (1 / 50) = (true, 3) :=
    waitFor_ofPlan (p := p) rfl (by norm_num) 3
  refine ⟨hw, hcompile, ?_, ?_⟩
  · rw [run_of_broken (s := s) hwait hcompile]
  · rw [diagnose_of_broken (s := s) hwait hcompile]

end Sandbox

end Playground
