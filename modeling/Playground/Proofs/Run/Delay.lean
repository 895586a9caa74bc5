import Playground.Proofs.Clock.Delay
import Playground.Run.Sandbox
import Playground.Toolchain.Planned

/-!
# Delayed runs

On exact time a run that begins so much later goes the same way: what it yields, its states, its
files and the flags of its program are the same, and its times are so much later.

- `run_delay` and `diagnose_delay`: for every toolchain, its compilations delayed along with the run.
- `delay_ofPlan`: a planned toolchain is the same whenever it is used.
-/

namespace Playground

/-! ## Programs -/

/-- A program that was launched so much later. -/
def Handle.delay (δ : ℚ) (h : Handle ℚ) : Handle ℚ :=
  { h with launchedAt := h.launchedAt + δ }

namespace Handle

variable (δ : ℚ) (h : Handle ℚ) (t : ℚ)

theorem readyAt_delay : (h.delay δ).readyAt = h.readyAt + δ :=
  add_right_comm ..

theorem endsAt_delay : (h.delay δ).endsAt = h.endsAt + δ := by
  show h.launchedAt + δ + h.plan.startup + h.plan.duration = h.launchedAt + _ + _ + δ
  ring

theorem started_delay : (h.delay δ).started (t + δ) = h.started t := by
  have hready : decide (h.readyAt + δ ≤ t + δ) = decide (h.readyAt ≤ t) :=
    decide_eq_decide.mpr (add_le_add_iff_right δ)
  unfold started
  rw [readyAt_delay, hready]
  rfl

theorem poll_delay : (h.delay δ).poll (t + δ) = h.poll t := by
  unfold poll
  rw [readyAt_delay, endsAt_delay]
  simp only [add_le_add_iff_right]
  rfl

theorem output_delay : (h.delay δ).output (t + δ) = h.output t := by
  show h.plan.output (t + δ - (h.launchedAt + δ)) = h.plan.output (t - h.launchedAt)
  rw [add_sub_add_right_eq_sub]

theorem outcome_delay : (h.delay δ).outcome (t + δ) = h.outcome t := by
  unfold outcome
  rw [poll_delay]
  rfl

end Handle

/-! ## Records -/

/-- A record whose times are so much later. -/
def RunRecord.delay {α : Type} (δ : ℚ) (r : RunRecord ℚ α) : RunRecord ℚ α :=
  { r with handle := r.handle.map (.delay δ), now := r.now + δ }

/-- A toolchain whose compilations are done so much later. -/
def Toolchain.delay (δ : ℚ) (t : Toolchain ℚ) : Toolchain ℚ :=
  { t with compileTime := t.compileTime.delay δ }

/-- A planned compilation takes no time or never ends, so that it does not matter when it begins. -/
theorem Toolchain.delay_ofPlan (δ : ℚ) (p : ToolchainPlan ℚ) :
    (Toolchain.ofPlan p).delay δ = .ofPlan p := by
  have htime : (Toolchain.ofPlan p).compileTime.delay δ = (Toolchain.ofPlan p).compileTime := by
    cases hblocked : p.isBlocked <;> simp [ofPlan, hblocked, Completion.delay]
  unfold delay
  rw [htime]

namespace Sandbox

/-- A sandbox whose compilations are done so much later. -/
def delay (δ : ℚ) (s : Sandbox ℚ) : Sandbox ℚ :=
  { s with toolchain := s.toolchain.delay δ }

variable (δ : ℚ) (s : Sandbox ℚ) (w : Workspace) (b : RunBudget ℚ) (d : Deadline ℚ) (h : Handle ℚ)
  (diagnostics : List Diagnostic) (files : FileTree) (now : ℚ)

/-! ## From the launch on -/

theorem awaitStart_delay :
    (s.delay δ).awaitStart (d.delay δ) (h.delay δ) (now + δ) = (s.awaitStart d h now).delay δ := by
  refine d.poll_delay δ now s.pollInterval fun t => ?_
  rw [Handle.started_delay, Handle.poll_delay]

theorem awaitEnd_delay :
    (s.delay δ).awaitEnd (d.delay δ) (h.delay δ) (now + δ) = (s.awaitEnd d h now).delay δ := by
  refine d.poll_delay δ now s.pollInterval fun t => ?_
  rw [Handle.poll_delay]

/-- A program that got ready so much later is waited for in the same way. -/
theorem supervise_delay :
    (s.delay δ).supervise b (h.delay δ) diagnostics files (now + δ) =
      (s.supervise b h diagnostics files now).delay δ := by
  have hend : (s.delay δ).awaitEnd ⟨now + δ, b.userCode⟩ (h.delay δ) (now + δ) =
      (s.awaitEnd ⟨now, b.userCode⟩ h now).delay δ :=
    s.awaitEnd_delay δ ⟨now, b.userCode⟩ h now
  unfold supervise
  rw [hend]
  simp only [Deadline.Polled.delay, Handle.poll_delay, Handle.outcome_delay, Handle.output_delay]
  cases (s.awaitEnd ⟨now, b.userCode⟩ h now).held <;> rfl

/-- A program that was launched so much later fares in the same way. -/
theorem follow_delay :
    (s.delay δ).follow b (d.delay δ) (h.delay δ) diagnostics files (now + δ) =
      (s.follow b d h diagnostics files now).delay δ := by
  unfold follow
  rw [awaitStart_delay]
  simp only [Deadline.Polled.delay, Handle.started_delay, Handle.poll_delay, Handle.output_delay,
    supervise_delay]
  cases (s.awaitStart d h now).held with
  | false => rfl
  | true => cases h.started (s.awaitStart d h now).now <;> rfl

/-! ## Up to the launch -/

theorem launch_delay :
    (s.delay δ).launch w b (d.delay δ) diagnostics (now + δ) =
      (s.launch w b d diagnostics now).delay δ := by
  unfold launch
  cases FileTree.ofFiles w.files with
  | error e => rfl
  | ok files =>
    show (if s.toolchain.canLaunch then (s.delay δ).follow b (d.delay δ)
      ((Handle.launch s.toolchain.host now).delay δ) diagnostics files (now + δ) else _) = _
    rw [follow_delay]
    cases s.toolchain.canLaunch <;> rfl

/-- A compilation that begins so much later is in time as before. -/
theorem compile_delay :
    (s.delay δ).compile w (d.delay δ) (now + δ) = (s.compile w d now).delay δ := by
  have hwait : (d.delay δ).waitFor (now + δ) (s.delay δ).toolchain.compileTime
      (s.delay δ).pollInterval = _ :=
    d.waitFor_delay δ now s.pollInterval s.toolchain.compileTime
  unfold compile
  rw [hwait]
  cases d.waitFor now s.toolchain.compileTime s.pollInterval with
  | mk inTime later => cases inTime <;> rfl

/-- Its budget begins so much later too. -/
theorem compile_begun_delay (budget : Option (RunBudget ℚ)) :
    (s.delay δ).compile w ⟨now + δ, (budget.getD (s.delay δ).defaultBudget).infrastructure⟩
      (now + δ) =
        (s.compile w ⟨now, (budget.getD s.defaultBudget).infrastructure⟩ now).delay δ :=
  s.compile_delay δ w ⟨now, _⟩ now

/-- A run that begins so much later goes the same way. -/
theorem run_delay (budget : Option (RunBudget ℚ)) :
    (s.delay δ).run w budget (now + δ) = (s.run w budget now).delay δ := by
  unfold run
  dsimp only
  rw [compile_begun_delay]
  generalize s.compile w _ now = compiled
  rcases compiled with ⟨answer, states, handle, files, later⟩
  cases answer with
  | error e => rfl
  | ok c =>
    simp only [RunRecord.delay]
    cases Diagnostic.mapAll w c.reports with
    | error m => rfl
    | ok diagnostics =>
      cases c.succeeded with
      | false => rfl
      | true => exact s.launch_delay δ w _ ⟨now, _⟩ diagnostics later

/-- So does compiling without running. -/
theorem diagnose_delay (budget : Option (RunBudget ℚ)) :
    (s.delay δ).diagnose w budget (now + δ) = (s.diagnose w budget now).delay δ := by
  unfold diagnose
  dsimp only
  rw [compile_begun_delay]
  rfl

end Sandbox

end Playground
