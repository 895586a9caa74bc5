import Playground.Proofs.Run.Planned
import Playground.Proofs.Workspace.Normal

/-!
# Agreement

The states that a run goes through, its answer and its handle tell the same story, and the plan of
the toolchain tells how far the story goes.

- `run_ofPlan_agrees`: for every plan, every budget and every time.
-/

namespace Playground

namespace RunRecord

variable {τ : Type} {r : RunRecord τ RunResult}

/-- With a handle, the run got past its compilation and its files. -/
theorem Agrees.launched (hr : r.Agrees) (hhandle : r.handle.isSome = true) :
    (¬ ∃ budget, r.answer = .error (.compilationTimedOut budget)) ∧ ¬ r.Rejected ∧
      ¬ r.Unwritten := by
  have hsome : r.handle ≠ none := Option.isSome_iff_ne_none.mp hhandle
  have hnone := mt hr.unlaunched.mpr hsome
  rwa [not_or, not_or] at hnone

end RunRecord

namespace Sandbox

/-- The states, the answer and the handle of a planned run agree. Moreover

1. the compilation times out iff it is blocked or there is no budget for it,
2. the answer is that of a failed compilation iff the compilation is in time and fails,
3. the files cannot be laid out iff that much has gone well and they have that fault, and
4. a program is launched iff all of this has gone well. -/
theorem run_ofPlan_agrees (p : ToolchainPlan ℚ) (default : RunBudget ℚ) {interval : ℚ}
    (hp : 0 < interval) {request : Request} {w : Workspace}
    (hw : Workspace.ofRequest request = .ok w) (budget : Option (RunBudget ℚ)) (now : ℚ) :
    let s : Sandbox ℚ := ⟨.ofPlan p, default, interval⟩
    let record := s.run w budget now
    let inTime := p.isBlocked = false ∧ 0 < (budget.getD default).infrastructure
    record.Agrees ∧
      ((∃ b, record.answer = .error (.compilationTimedOut b)) ↔ ¬ inTime) ∧
      (record.Rejected ↔ inTime ∧ p.compiles = false) ∧
      (∀ e, record.answer = .error (.file e) ↔
        inTime ∧ p.compiles = true ∧ FileTree.ofFiles w.files = .error e) ∧
      (record.handle.isSome = true ↔
        inTime ∧ p.compiles = true ∧ ∃ files, FileTree.ofFiles w.files = .ok files) := by
  intro s record inTime
  obtain ⟨entry, hentry⟩ := Workspace.exists_entryBuffer_of_ofRequest hw
  by_cases htime : inTime
  -- the compilation is in time, and the plan tells whether it is a success
  · have hblocked := htime.1
    have hbudget := htime.2
    cases hcompiles : p.compiles with
    | false =>
      obtain ⟨result, hresult, hrun⟩ :=
        run_ofPlan_of_rejected interval hentry hblocked hbudget hcompiles now
      have hrecord : record = _ := hrun
      refine ⟨hrecord ▸ (RunRecord.Course.rejected result now hresult).agrees, ?_⟩
      simp [hrecord, htime, hresult]
    | true =>
      cases hfiles : FileTree.ofFiles w.files with
      | error e =>
        have hrecord : record = _ :=
          run_ofPlan_of_unwritten interval hentry hblocked hbudget hcompiles hfiles now
        refine ⟨hrecord ▸ (RunRecord.Course.unwritten e now).agrees, ?_⟩
        simp [hrecord, htime]
      | ok files =>
        obtain ⟨diagnostics, hrun⟩ :=
          run_ofPlan_of_written interval hentry hblocked hbudget hcompiles hfiles now
        have hrecord : record = s.follow (budget.getD default) ⟨now, _⟩
          (.launch p.host now) diagnostics files now := hrun
        obtain ⟨hcourse, hhandle⟩ : record.Course ∧ record.handle.isSome = true := by
          rw [hrecord]
          exact follow_course rfl diagnostics files now
        obtain ⟨htimeout, hrejected, hunwritten⟩ := hcourse.agrees.launched hhandle
        have hfile : ∀ e, record.answer ≠ .error (.file e) := fun e he => hunwritten ⟨e, he⟩
        exact ⟨hcourse.agrees, by simp [htime, htimeout], iff_of_false hrejected (by simp),
          by simp [hfile], by simp [htime, hhandle]⟩
  -- the compilation is blocked, or has no budget
  · obtain ⟨later, hrun⟩ := run_ofPlan_of_late (w := w) hp htime now
    have hrecord : record = _ := hrun
    refine ⟨hrecord ▸ (RunRecord.Course.compilationTimedOut _ later).agrees, ?_⟩
    simp [hrecord, htime]

/-- A source with a file next to it, and a program that runs for two seconds. -/
theorem run_ofPlan_agrees_two_seconds :
    let p : ToolchainPlan ℚ := ⟨[], true, false, [], none, 1, 2, 0, false, "2\n", none⟩
    let s : Sandbox ℚ := ⟨.ofPlan p, ⟨5, 15⟩, 1 / 50⟩
    let request : Request :=
      { source := some "print(1 + 1)", files := some [⟨"data//a.txt", "1"⟩] }
    let w : Workspace :=
      ⟨"script", [⟨"", "print(1 + 1)", none⟩], [], [⟨"data/a.txt", "1"⟩], none⟩
    Workspace.ofRequest request = .ok w ∧ (0 : ℚ) < 1 / 50 ∧
      (s.run w none 7).Agrees ∧ (s.run w none 7).handle.isSome = true := by
  intro p s request w
  have hw : Workspace.ofRequest request = .ok w := by decide
  have hp : (0 : ℚ) < 1 / 50 := by norm_num
  obtain ⟨hagrees, -, -, -, hhandle⟩ := run_ofPlan_agrees p ⟨5, 15⟩ hp hw none 7
  have hbudget : (0 : ℚ) < 5 := by norm_num
  exact ⟨hw, hp, hagrees, hhandle.mpr ⟨⟨rfl, hbudget⟩, rfl, _, rfl⟩⟩

end Sandbox

end Playground
