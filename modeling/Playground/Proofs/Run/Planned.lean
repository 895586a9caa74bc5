import Playground.Proofs.Clock.Waiting
import Playground.Proofs.Run.Course
import Playground.Toolchain.Planned

/-!
# Planned runs

How far a run of a planned toolchain gets. Its compilation is done at once or never, so that it is in
time iff it ends and there is any budget at all.

- `run_ofPlan_of_late`, `run_ofPlan_of_rejected` and `run_ofPlan_of_unwritten`: the runs that launch
  nothing.
- `run_ofPlan_of_written`: the runs that launch a program.
-/

namespace Playground

namespace ToolchainPlan

/-- Whether what is planned compiles. -/
def compiles {τ : Type} (p : ToolchainPlan τ) : Bool :=
  p.hasArtifact && !p.reports.any Report.isError

/-- Every compilation of a plan has an outcome, and the plan tells whether it is a success. -/
theorem exists_compile {τ : Type} (p : ToolchainPlan τ) (w : Workspace) :
    ∃ c, w.compile (.ofPlan p) = .ok c ∧ c.succeeded = p.compiles := by
  refine ⟨_, rfl, ?_⟩
  unfold WorkspaceCompilation.ofCompilation Compilation.succeeded Compilation.hasError compilation
    compiles WorkspaceCompilation.succeeded
  cases p.hasArtifact <;> cases p.reports.any Report.isError <;> rfl

end ToolchainPlan

namespace Sandbox

variable {p : ToolchainPlan ℚ} {default : RunBudget ℚ} {interval : ℚ} {w : Workspace}
  {budget : Option (RunBudget ℚ)}

/-- A compilation that never ends uses up the budget for starting up. -/
theorem run_ofPlan_of_blocked (hp : 0 < interval) (hblocked : p.isBlocked = true) (now : ℚ) :
    (⟨.ofPlan p, default, interval⟩ : Sandbox ℚ).run w budget now =
      ⟨.error (.compilationTimedOut (budget.getD default).infrastructure),
        [.compiling, .infrastructureTimedOut], none, .empty,
        max now (now + (budget.getD default).infrastructure)⟩ := by
  have htime : (Toolchain.ofPlan p).compileTime = .never := if_pos hblocked
  refine run_of_late ?_
  show Deadline.waitFor _ now (Toolchain.ofPlan p).compileTime interval = _
  rw [htime, Deadline.waitFor_never _ hp]
  rfl

/-- Without a budget for starting up, a compilation is late even if it is done at once. -/
theorem run_ofPlan_of_broke (hblocked : p.isBlocked = false)
    (hbudget : (budget.getD default).infrastructure ≤ 0) (now : ℚ) :
    (⟨.ofPlan p, default, interval⟩ : Sandbox ℚ).run w budget now =
      ⟨.error (.compilationTimedOut (budget.getD default).infrastructure),
        [.compiling, .infrastructureTimedOut], none, .empty, now⟩ := by
  have htime : (Toolchain.ofPlan p).compileTime = .done := if_neg (by simp [hblocked])
  have hexp : (⟨now, (budget.getD default).infrastructure⟩ : Deadline ℚ).isExpired now = true := by
    rw [Deadline.isExpired_eq_true_iff]
    exact add_le_of_nonpos_right hbudget
  refine run_of_late ?_
  show Deadline.waitFor _ now (Toolchain.ofPlan p).compileTime interval = _
  rw [htime, Deadline.waitFor_done, hexp]
  rfl

/-- A compilation that never ends, or that there is no budget for, is late. -/
theorem run_ofPlan_of_late (hp : 0 < interval)
    (hlate : ¬ (p.isBlocked = false ∧ 0 < (budget.getD default).infrastructure)) (now : ℚ) :
    ∃ later, (⟨.ofPlan p, default, interval⟩ : Sandbox ℚ).run w budget now =
      ⟨.error (.compilationTimedOut (budget.getD default).infrastructure),
        [.compiling, .infrastructureTimedOut], none, .empty, later⟩ := by
  cases hblocked : p.isBlocked with
  | true => exact ⟨_, run_ofPlan_of_blocked hp hblocked now⟩
  | false =>
    have hbudget : (budget.getD default).infrastructure ≤ 0 :=
      not_lt.mp fun hpos => hlate ⟨hblocked, hpos⟩
    exact ⟨now, run_ofPlan_of_broke hblocked hbudget now⟩

/-- With any budget for starting up, a compilation that is done at once is in time. -/
theorem waitFor_ofPlan (hblocked : p.isBlocked = false) {infrastructure : ℚ}
    (hbudget : 0 < infrastructure) (now : ℚ) :
    (⟨now, infrastructure⟩ : Deadline ℚ).waitFor now (Toolchain.ofPlan p).compileTime interval =
      (true, now) := by
  have htime : (Toolchain.ofPlan p).compileTime = .done := if_neg (by simp [hblocked])
  have hexp : (⟨now, infrastructure⟩ : Deadline ℚ).isExpired now = false := by
    rw [Deadline.isExpired_eq_false_iff]
    exact lt_add_of_pos_right now hbudget
  rw [htime, Deadline.waitFor_done, hexp]
  rfl

variable (interval) {entry : Buffer}

/-- A workspace that does not compile fails without a launch. -/
theorem run_ofPlan_of_rejected (hentry : w.entryBuffer = .ok entry) (hblocked : p.isBlocked = false)
    (hbudget : 0 < (budget.getD default).infrastructure) (hcompiles : p.compiles = false)
    (now : ℚ) :
    ∃ result, result.succeeded = false ∧
      (⟨.ofPlan p, default, interval⟩ : Sandbox ℚ).run w budget now =
        ⟨.ok result, [.compiling, .failed], none, .empty, now⟩ := by
  obtain ⟨c, hcompile, hc⟩ := p.exists_compile w
  obtain ⟨diagnostics, hmap, hformat⟩ := Diagnostic.exists_mapAll hentry c.reports
  obtain ⟨lines, -, hrejected⟩ := exists_lines hformat
  refine ⟨⟨false, "\n".intercalate lines, none, none, diagnostics⟩, rfl, ?_⟩
  rw [run_of_compiled (waitFor_ofPlan hblocked hbudget now) hcompile hmap, hc, hcompiles, hrejected]
  rfl

/-- A workspace that compiles has its files laid out, and is launched. -/
theorem run_ofPlan_of_compiles (hentry : w.entryBuffer = .ok entry) (hblocked : p.isBlocked = false)
    (hbudget : 0 < (budget.getD default).infrastructure) (hcompiles : p.compiles = true)
    (now : ℚ) :
    let s : Sandbox ℚ := ⟨.ofPlan p, default, interval⟩
    let b := budget.getD default
    ∃ diagnostics, s.run w budget now = s.launch w b ⟨now, b.infrastructure⟩ diagnostics now := by
  obtain ⟨c, hcompile, hc⟩ := p.exists_compile w
  obtain ⟨diagnostics, hmap, -⟩ := Diagnostic.exists_mapAll hentry c.reports
  refine ⟨diagnostics, ?_⟩
  rw [run_of_compiled (waitFor_ofPlan hblocked hbudget now) hcompile hmap, hc, hcompiles]
  rfl

/-- A workspace whose files cannot be laid out is not launched. -/
theorem run_ofPlan_of_unwritten (hentry : w.entryBuffer = .ok entry)
    (hblocked : p.isBlocked = false) (hbudget : 0 < (budget.getD default).infrastructure)
    (hcompiles : p.compiles = true) {e : FileError} (hfiles : FileTree.ofFiles w.files = .error e)
    (now : ℚ) :
    (⟨.ofPlan p, default, interval⟩ : Sandbox ℚ).run w budget now =
      ⟨.error (.file e), [.compiling], none, .empty, now⟩ := by
  obtain ⟨diagnostics, hrun⟩ :=
    run_ofPlan_of_compiles interval hentry hblocked hbudget hcompiles now
  exact hrun.trans (launch_of_unwritten hfiles)

/-- A program whose files can be laid out is launched at once, and followed. -/
theorem run_ofPlan_of_written (hentry : w.entryBuffer = .ok entry) (hblocked : p.isBlocked = false)
    (hbudget : 0 < (budget.getD default).infrastructure) (hcompiles : p.compiles = true)
    {files : FileTree} (hfiles : FileTree.ofFiles w.files = .ok files) (now : ℚ) :
    let s : Sandbox ℚ := ⟨.ofPlan p, default, interval⟩
    let b := budget.getD default
    ∃ diagnostics, s.run w budget now =
      s.follow b ⟨now, b.infrastructure⟩ (.launch p.host now) diagnostics files now := by
  intro s b
  obtain ⟨diagnostics, hrun⟩ :=
    run_ofPlan_of_compiles interval hentry hblocked hbudget hcompiles now
  exact ⟨diagnostics, hrun.trans (launch_of_written hfiles rfl)⟩

end Sandbox

end Playground
