import Playground.Proofs.Diagnostic.Faithful
import Playground.Proofs.Run.Planned
import Playground.Proofs.Toolchain.Adapter

/-!
# Diagnosing and running

A workspace is told the same about its compilation whether it is run or only diagnosed, and it is
run iff that tells of no error.

- `isError_of_mapAll`: diagnostics are errors iff the reports are that they come from.
- `RunRecord.Confirms`: what it is for a run to tell the same as a list of diagnostics.
- `diagnose_run_agree`: a run that compiles in time does, and so does a diagnosis.
-/

namespace Playground

namespace Diagnostic

variable {w : Workspace} {rs : List Report} {ds : List Diagnostic}

/-- A diagnostic is an error iff its report is one. -/
theorem Faithful.isError {r : Report} {d : Diagnostic} (h : d.Faithful w r) :
    d.isError = r.isError := by
  rw [Diagnostic.isError, Report.isError, h.severity]

/-- There is no error among diagnostics iff there is none among their reports. -/
theorem isError_of_mapAll (hw : w.WellFormed) (hmap : mapAll w rs = .ok ds) :
    (∀ d ∈ ds, d.isError = false) ↔ ∀ r ∈ rs, r.isError = false := by
  induction Checks.mapM_eq_ok_iff.mp hmap with
  | nil => simp
  | cons hd hrest ih =>
    rw [List.forall_mem_cons, List.forall_mem_cons, ih (Checks.mapM_eq_ok_iff.mpr hrest),
      (faithful_of_map hw hd).isError]

end Diagnostic

namespace RunRecord

variable {τ : Type}

/-- A run whose compilation is in time tells the same as the diagnostics of its workspace. -/
structure Confirms (r : RunRecord τ RunResult) (w : Workspace) (ds : List Diagnostic) : Prop where
  inTime : ∀ budget, r.answer ≠ .error (.compilationTimedOut budget)
  /-- Every result has these diagnostics. -/
  diagnostics : ∀ result, r.answer = .ok result → result.diagnostics = ds
  /-- Nothing is launched and the diagnostics are the output of a failure iff there is an error
  among them. -/
  rejected : (∃ d ∈ ds, d.isError = true) ↔
    r.handle = none ∧ ∃ lines, ds.mapM (Diagnostic.format w) = .ok lines ∧
      r.answer = .ok ⟨false, "\n".intercalate lines, none, none, ds⟩
  /-- A success comes without errors. -/
  succeeded : ∀ result, r.answer = .ok result → result.succeeded = true →
    ∀ d ∈ result.diagnostics, d.isError = false

/-- A failed compilation confirms the diagnostics that it is told by, an error among them. -/
theorem confirms_of_error {w : Workspace} {ds : List Diagnostic}
    (herror : ∃ d ∈ ds, d.isError = true) {lines : List String}
    (hlines : ds.mapM (Diagnostic.format w) = .ok lines) (states : List RunState) (now : τ) :
    Confirms ⟨.ok ⟨false, "\n".intercalate lines, none, none, ds⟩, states, none, .empty, now⟩
      w ds where
  inTime _ h := nomatch h
  diagnostics _ h := by
    cases h
    rfl
  rejected := iff_of_true herror ⟨rfl, lines, hlines, rfl⟩
  succeeded _ h hsucceeded := by
    cases h
    cases hsucceeded

end RunRecord

namespace Sandbox

variable {τ : Type} [TimeScale τ] {s : Sandbox τ} {w : Workspace}

/-! ## Diagnoses -/

variable {budget : Option (RunBudget τ)} {now later : τ}

/-- A diagnosis is given up with the compilation. -/
theorem diagnose_of_late
    (hwait : (⟨now, (budget.getD s.defaultBudget).infrastructure⟩ : Deadline τ).waitFor now
      s.toolchain.compileTime s.pollInterval = (false, later)) :
    s.diagnose w budget now =
      ⟨.error (.compilationTimedOut (budget.getD s.defaultBudget).infrastructure),
        [.compiling, .infrastructureTimedOut], none, .empty, later⟩ := by
  simp [diagnose, compile, hwait, Except.bind]

/-- The diagnosis of a compilation that is done in time. -/
theorem diagnose_of_compiled {c : WorkspaceCompilation} {diagnostics : List Diagnostic}
    (hwait : (⟨now, (budget.getD s.defaultBudget).infrastructure⟩ : Deadline τ).waitFor now
      s.toolchain.compileTime s.pollInterval = (true, later))
    (hcompile : w.compile s.toolchain = .ok c)
    (hmap : Diagnostic.mapAll w c.reports = .ok diagnostics) :
    s.diagnose w budget now = ⟨.ok diagnostics, [.compiling], none, .empty, later⟩ := by
  simp [diagnose, compile, hwait, hcompile, Except.mapError, Except.bind, hmap]

/-! ## Launches -/

variable {b : RunBudget τ} {d : Deadline τ} {h : Handle τ} {diagnostics : List Diagnostic}
  {files : FileTree}

/-- A launch comes to nothing, or is followed. -/
theorem launch_cases (s : Sandbox τ) (w : Workspace) (b : RunBudget τ) (d : Deadline τ)
    (diagnostics : List Diagnostic) (now : τ) :
    (∃ e, s.launch w b d diagnostics now = ⟨.error (.file e), [.compiling], none, .empty, now⟩) ∨
      ∃ files, s.launch w b d diagnostics now =
        s.follow b d (.launch s.toolchain.host now) diagnostics files now := by
  cases hfiles : FileTree.ofFiles w.files with
  | error e => exact .inl ⟨e, launch_of_unwritten hfiles⟩
  | ok files =>
    cases hcan : s.toolchain.canLaunch with
    | true => exact .inr ⟨files, launch_of_written hfiles hcan⟩
    | false =>
      refine .inl ⟨.notFound, ?_⟩
      rw [launch, hfiles]
      exact if_neg (by simp [hcan])

/-- The result of a program that was launched has the diagnostics of its compilation. -/
theorem follow_diagnostics {result : RunResult}
    (hresult : (s.follow b d h diagnostics files now).answer = .ok result) :
    result.diagnostics = diagnostics := by
  cases hstart : (s.awaitStart d h now).held with
  | false =>
    rw [follow_of_missed hstart] at hresult
    cases hresult
  | true =>
    cases hready : h.started (s.awaitStart d h now).now with
    | false =>
      rw [follow_of_ended hstart hready] at hresult
      cases hresult
    | true =>
      rw [follow_of_ready hstart hready, supervise] at hresult
      dsimp only at hresult
      split at hresult
      · cases hresult
        rfl
      · cases hresult

/-- A launch without errors confirms that there are none. -/
theorem launch_confirms (hclean : ∀ d ∈ diagnostics, d.isError = false) :
    (s.launch w b d diagnostics now).Confirms w diagnostics := by
  have hnone : ¬ ∃ d ∈ diagnostics, d.isError = true := fun ⟨d, hd, herror⟩ => by
    rw [hclean d hd] at herror
    cases herror
  rcases s.launch_cases w b d diagnostics now with ⟨e, hlaunch⟩ | ⟨files, hlaunch⟩
  · rw [hlaunch]
    exact
      { inTime := fun _ h => nomatch h
        diagnostics := fun _ h => nomatch h
        rejected := iff_of_false hnone fun ⟨_, _, _, h⟩ => nomatch h
        succeeded := fun _ h => nomatch h }
  · rw [hlaunch]
    obtain ⟨hcourse, hhandle⟩ :=
      follow_course (s := s) (b := b) (d := d) (h := .launch s.toolchain.host now) rfl diagnostics
        files now
    have hhandle := Option.isSome_iff_ne_none.mp hhandle
    exact
      { inTime := fun budget h => hhandle (hcourse.agrees.unlaunched.mpr (.inl ⟨budget, h⟩))
        diagnostics := fun _ h => follow_diagnostics h
        rejected := iff_of_false hnone fun h => hhandle h.1
        succeeded := fun _ h _ => follow_diagnostics h ▸ hclean }

/-! ## Agreement -/

/-- A run in which a compilation is in time confirms the diagnostics of that compilation. -/
theorem run_confirms (hw : w.WellFormed) {c : Compilation} {o : WorkspaceCompilation}
    (ho : o.Explains c) (hcompile : w.compile s.toolchain = .ok o)
    (hmap : Diagnostic.mapAll w o.reports = .ok diagnostics)
    (hformat : ∀ d ∈ diagnostics, ∃ line, d.format w = .ok line)
    (hwait : (⟨now, (budget.getD s.defaultBudget).infrastructure⟩ : Deadline τ).waitFor now
      s.toolchain.compileTime s.pollInterval = (true, later)) :
    (s.run w budget now).Confirms w diagnostics := by
  have herrors := ho.succeeded_iff.trans (Diagnostic.isError_of_mapAll hw hmap).symm
  rw [run_of_compiled hwait hcompile hmap]
  by_cases hsucceeded : o.succeeded = true
  · rw [if_pos hsucceeded]
    exact launch_confirms (herrors.mp hsucceeded)
  · obtain ⟨lines, hlines, hrejected⟩ := exists_lines hformat
    rw [if_neg hsucceeded, hrejected]
    refine RunRecord.confirms_of_error ?_ hlines _ _
    simpa using mt herrors.mpr hsucceeded

/-- Whatever a toolchain makes of a workspace, the compilation of the workspace tells, and it is
told by diagnostics that do not depend on when and how they are asked for: as soon as the
compilation is in time they are the answer of a diagnosis, and a run confirms them. -/
theorem diagnose_run_agree (s : Sandbox τ) {request : Request}
    (hw : Workspace.ofRequest request = .ok w) {c : Compilation}
    (hc : s.toolchain.compile w.merged.text (Mode.ofKind w.kind) = .ok c) :
    ∃ o ds, w.compile s.toolchain = .ok o ∧ o.Explains c ∧
      Diagnostic.mapAll w o.reports = .ok ds ∧
      ∀ (budget : Option (RunBudget τ)) (now : τ),
        let infrastructure := (budget.getD s.defaultBudget).infrastructure
        let inTime := ((⟨now, infrastructure⟩ : Deadline τ).waitFor now s.toolchain.compileTime
          s.pollInterval).1
        (inTime = true →
          (s.diagnose w budget now).answer = .ok ds ∧ (s.run w budget now).Confirms w ds) ∧
        (inTime = false →
          (s.diagnose w budget now).answer = .error (.compilationTimedOut infrastructure) ∧
            (s.run w budget now).answer = .error (.compilationTimedOut infrastructure)) := by
  have hformed := Workspace.wellFormed_of_ofRequest hw
  obtain ⟨entry, hentry⟩ := Workspace.exists_entryBuffer_of_ofRequest hw
  have hexplains := WorkspaceCompilation.ofCompilation_explains (Mode.ofKind w.kind) c
  have hcompile : w.compile s.toolchain = .ok (.ofCompilation (Mode.ofKind w.kind) c) := by
    rw [Workspace.compile, hc]
    rfl
  obtain ⟨ds, hmap, hformat⟩ := Diagnostic.exists_mapAll hentry
    (WorkspaceCompilation.ofCompilation (Mode.ofKind w.kind) c).reports
  refine ⟨_, ds, hcompile, hexplains, hmap, ?_⟩
  intro budget now infrastructure inTime
  obtain ⟨later, hwait⟩ : ∃ later, (⟨now, infrastructure⟩ : Deadline τ).waitFor now
      s.toolchain.compileTime s.pollInterval = (inTime, later) := ⟨_, rfl⟩
  refine ⟨fun htime => ?_, fun htime => ?_⟩
  · rw [htime] at hwait
    refine ⟨?_, run_confirms hformed hexplains hcompile hmap hformat hwait⟩
    rw [diagnose_of_compiled hwait hcompile hmap]
  · rw [htime] at hwait
    rw [diagnose_of_late hwait, run_of_late hwait]
    exact ⟨rfl, rfl⟩

/-- A toolchain that has nothing to run and only a warning to give for it. -/
theorem diagnose_run_agree_unexplained :
    let p : ToolchainPlan ℚ :=
      ⟨[⟨"warning", "PY2001", "unused", some 7, some 9⟩], false, false, [], none, 0, 0, 0, false, "",
        none⟩
    let s : Sandbox ℚ := ⟨.ofPlan p, ⟨5, 15⟩, 1 / 50⟩
    let request : Request := { source := some "import os" }
    let w : Workspace := ⟨"script", [⟨"", "import os", none⟩], [], [], none⟩
    let ds : List Diagnostic :=
      [⟨"warning", "PY2001", "unused", 7, 9, some ""⟩,
        ⟨"error", "PY0000", "Compilation did not produce a runnable artifact", 0, 0, some ""⟩]
    Workspace.ofRequest request = .ok w ∧
      s.toolchain.compile w.merged.text (Mode.ofKind w.kind) = .ok ⟨none, p.reports⟩ ∧
      (s.diagnose w none 3).answer = .ok ds ∧ (s.run w none 4).Confirms w ds ∧
      (s.run w none 4).answer = .ok ⟨false, "(1,8): warning PY2001: unused\n" ++
        "(1,1): error PY0000: Compilation did not produce a runnable artifact", none, none, ds⟩ := by
  intro p s request w ds
  have hw : Workspace.ofRequest request = .ok w := by decide
  have hc : s.toolchain.compile w.merged.text (Mode.ofKind w.kind) = .ok ⟨none, p.reports⟩ := rfl
  have htime (now : ℚ) : ((⟨now, 5⟩ : Deadline ℚ).waitFor now s.toolchain.compileTime (1 / 50)).1 =
      true := by
    rw [waitFor_ofPlan rfl (by norm_num)]
  obtain ⟨o, ds', hcompile, -, hmap, hall⟩ := diagnose_run_agree s hw hc
  obtain rfl : _ = o := Except.ok.inj hcompile
  obtain rfl : ds = ds' := Except.ok.inj hmap
  have hrun := ((hall none 4).1 (htime 4)).2
  obtain ⟨-, lines, hlines, hanswer⟩ :=
    hrun.rejected.mp ⟨_, List.mem_cons_of_mem _ List.mem_cons_self, rfl⟩
  obtain rfl : _ = lines := Except.ok.inj hlines
  exact ⟨hw, hc, ((hall none 3).1 (htime 3)).1, hrun, hanswer⟩

end Sandbox

end Playground
