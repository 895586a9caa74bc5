import Mathlib.Tactic.Ring
import Playground.Proofs.Clock.Polling
import Playground.Proofs.Run.Planned

/-!
# Timing

Which of its two budgets a planned run exceeds, and when it ends, in exact time. The program is
looked at every interval and once more when a budget runs out, so that either budget may be used up
to its very end. The second budget begins when the program is noticed to be ready, not when it gets
ready.

- `awaitStart_eq` and `awaitEnd_eq`: either wait is for a time.
- `run_ofPlan_timing`: the outcome of a run by its durations and its budgets.
-/

namespace Playground

/-! ## What is waited for -/

namespace Handle

variable {h : Handle ℚ}

/-- A program has got ready or has ended as soon as it should get ready, even if its host crashes
then. -/
theorem started_or_poll (hkilled : h.killed = false) (hduration : 0 ≤ h.plan.duration) (t : ℚ) :
    (h.started t || (h.poll t).isSome) = decide (h.readyAt ≤ t) := by
  have hends : h.readyAt ≤ h.endsAt := le_add_of_nonneg_right hduration
  unfold started poll
  rw [hkilled]
  by_cases hready : h.readyAt ≤ t
  -- with a crash it has ended then, without one it is ready
  · cases h.plan.crash <;> simp [hready]
  · have hend : ¬ h.endsAt ≤ t := fun hend => hready (hends.trans hend)
    cases h.plan.crash <;> simp [hready, hend]

/-- A program whose host does not crash has ended as soon as it should. -/
theorem isSome_poll (hkilled : h.killed = false) (hcrash : h.plan.crash = none) (t : ℚ) :
    (h.poll t).isSome = decide (h.endsAt ≤ t) := by
  unfold poll
  rw [hkilled, hcrash]
  by_cases hend : h.endsAt ≤ t <;> simp [hend]

/-- A program whose host does not crash is ready as soon as it should. -/
theorem started_of_crash_none (hkilled : h.killed = false) (hcrash : h.plan.crash = none) (t : ℚ) :
    h.started t = decide (h.readyAt ≤ t) := by
  simp [started, hkilled, hcrash]

/-- A program whose host crashes never gets ready. -/
theorem started_of_crash_some {status : Int} (hcrash : h.plan.crash = some status) (t : ℚ) :
    h.started t = false := by
  simp [started, hcrash]

end Handle

namespace Sandbox

/-! ## The two waits -/

section

variable {s : Sandbox ℚ} {d : Deadline ℚ} {h : Handle ℚ}

/-- The first wait is for the time at which the program should get ready. -/
theorem awaitStart_eq (hkilled : h.killed = false) (hduration : 0 ≤ h.plan.duration) (now : ℚ) :
    s.awaitStart d h now = d.poll now (fun t => h.readyAt ≤ t) s.pollInterval := by
  rw [awaitStart, funext (h.started_or_poll hkilled hduration)]

/-- The second wait is for the time at which the program should end. -/
theorem awaitEnd_eq (hkilled : h.killed = false) (hcrash : h.plan.crash = none) (now : ℚ) :
    s.awaitEnd d h now = d.poll now (fun t => h.endsAt ≤ t) s.pollInterval := by
  rw [awaitEnd, funext (h.isSome_poll hkilled hcrash)]

end

end Sandbox

/-! ## The course of a program in time -/

/-- How long it takes until a program is noticed to be ready: whole intervals, and never longer than
the budget. -/
def ToolchainPlan.noticed (p : ToolchainPlan ℚ) (interval infrastructure : ℚ) : ℚ :=
  min (interval * ⌈p.startup / interval⌉) infrastructure

/-- A program is ready when it is noticed to be. -/
theorem ToolchainPlan.startup_le_noticed (p : ToolchainPlan ℚ) {interval infrastructure : ℚ}
    (hp : 0 < interval) (hintime : p.startup ≤ infrastructure) :
    p.startup ≤ p.noticed interval infrastructure := by
  have hceil : p.startup / interval ≤ ⌈p.startup / interval⌉ := Int.le_ceil _
  have hcover : p.startup ≤ interval * ⌈p.startup / interval⌉ := (div_le_iff₀' hp).mp hceil
  exact le_min hcover hintime

/-- A program is noticed to be ready within one interval. -/
theorem ToolchainPlan.noticed_lt (p : ToolchainPlan ℚ) {interval infrastructure : ℚ}
    (hp : 0 < interval) : p.noticed interval infrastructure < p.startup + interval := by
  have hceil : (⌈p.startup / interval⌉ : ℚ) < p.startup / interval + 1 := Int.ceil_lt_add_one _
  have hcover : interval * ⌈p.startup / interval⌉ < interval * (p.startup / interval + 1) :=
    mul_lt_mul_of_pos_left hceil hp
  have hsum : interval * (p.startup / interval + 1) = p.startup + interval := by
    rw [mul_add, mul_one, mul_div_cancel₀ _ hp.ne']
  exact (min_le_left _ _).trans_lt (hsum ▸ hcover)

theorem ToolchainPlan.crash_host_eq_none (p : ToolchainPlan ℚ) (hcrash : p.crashes = false) :
    p.host.crash = none :=
  if_neg (by simp [hcrash])

namespace Sandbox

variable {s : Sandbox ℚ} (hp : 0 < s.pollInterval) {p : ToolchainPlan ℚ} {b : RunBudget ℚ}

section

variable (hcrash : p.crashes = false) (huserCode : 0 < b.userCode)
include hp hcrash huserCode

/-- A program that takes longer than its budget is killed when the budget runs out. -/
theorem supervise_overrun {start now : ℚ}
    (hend : now + b.userCode < start + p.startup + p.duration) (diagnostics : List Diagnostic)
    (files : FileTree) :
    s.supervise b (.launch p.host start) diagnostics files now =
      ⟨.error (.userCodeTimedOut b.userCode p.output),
        [.compiling, .running, .userCodeTimedOut],
        some (Handle.launch p.host start).kill.close, files, now + b.userCode⟩ := by
  have hnone : (Handle.launch p.host start).plan.crash = none := p.crash_host_eq_none hcrash
  have hends : now + b.userCode < (Handle.launch p.host start).endsAt := hend
  obtain ⟨hheld, hnow⟩ := Deadline.poll_beyond hp huserCode.le hends
  rw [← awaitEnd_eq rfl hnone] at hheld hnow
  rw [supervise_of_missed hheld, hnow]
  rfl

/-- A program that takes no longer than its budget has a result, from the moment on that its end is
noticed. -/
theorem supervise_finished {start now : ℚ}
    (hend : start + p.startup + p.duration ≤ now + b.userCode) (diagnostics : List Diagnostic)
    (files : FileTree) :
    ∃ result, s.supervise b (.launch p.host start) diagnostics files now =
      ⟨.ok result, [.compiling, .running, if result.succeeded then .succeeded else .failed],
        some (Handle.launch p.host start).close, files,
        now + min (s.pollInterval *
          ⌈max (start + p.startup + p.duration - now) 0 / s.pollInterval⌉) b.userCode⟩ := by
  have hnone : (Handle.launch p.host start).plan.crash = none := p.crash_host_eq_none hcrash
  have hends : (Handle.launch p.host start).endsAt ≤ now + b.userCode := hend
  obtain ⟨hheld, hnow⟩ := Deadline.poll_within hp huserCode.le hends
  rw [← awaitEnd_eq rfl hnone] at hheld hnow
  obtain ⟨result, hresult⟩ := supervise_of_ended diagnostics files hheld
  rw [hnow] at hresult
  exact ⟨result, hresult⟩

end

variable (hstartup : 0 ≤ p.startup) (hduration : 0 ≤ p.duration)
  (hinfrastructure : 0 < b.infrastructure)
include hp hduration hinfrastructure

/-- A program that takes longer than the budget to get ready is killed when the budget runs out. -/
theorem follow_late (hlate : b.infrastructure < p.startup) (diagnostics : List Diagnostic)
    (files : FileTree) (start : ℚ) :
    s.follow b ⟨start, b.infrastructure⟩ (.launch p.host start) diagnostics files start =
      ⟨.error (.startTimedOut b.infrastructure p.output), [.compiling, .infrastructureTimedOut],
        some (Handle.launch p.host start).kill.close, files, start + b.infrastructure⟩ := by
  have hready : start + b.infrastructure < (Handle.launch p.host start).readyAt :=
    add_lt_add_right hlate start
  obtain ⟨hheld, hnow⟩ := Deadline.poll_beyond hp hinfrastructure.le hready
  rw [← awaitStart_eq rfl hduration] at hheld hnow
  rw [follow_of_missed hheld, hnow]
  rfl

include hstartup

/-- A program that gets ready within the budget is noticed. -/
theorem awaitStart_launch (hintime : p.startup ≤ b.infrastructure) (start : ℚ) :
    (s.awaitStart ⟨start, b.infrastructure⟩ (.launch p.host start) start).held = true ∧
      (s.awaitStart ⟨start, b.infrastructure⟩ (.launch p.host start) start).now =
        start + p.noticed s.pollInterval b.infrastructure := by
  have hready : (Handle.launch p.host start).readyAt ≤ start + b.infrastructure :=
    add_le_add_right hintime start
  have hspan : max ((Handle.launch p.host start).readyAt - start) 0 = p.startup := by
    show max (start + p.startup - start) 0 = p.startup
    rw [add_sub_cancel_left, max_eq_left hstartup]
  have hpoll := Deadline.poll_within hp hinfrastructure.le hready
  rw [hspan] at hpoll
  rw [awaitStart_eq (h := .launch p.host start) rfl hduration]
  exact hpoll

/-- A host that crashes within the budget has ended early. -/
theorem follow_crashed (hcrash : p.crashes = true) (hintime : p.startup ≤ b.infrastructure)
    (diagnostics : List Diagnostic) (files : FileTree) (start : ℚ) :
    (s.follow b ⟨start, b.infrastructure⟩ (.launch p.host start) diagnostics files
      start).HostEnded := by
  have hsome : (Handle.launch p.host start).plan.crash = some ToolchainPlan.crashStatus :=
    if_pos hcrash
  obtain ⟨hheld, -⟩ := awaitStart_launch hp hstartup hduration hinfrastructure hintime start
  rw [follow_of_ended hheld (Handle.started_of_crash_some hsome _)]
  exact ⟨_, _, rfl⟩

/-- A program that gets ready within the budget is waited for from the moment that is noticed. -/
theorem follow_launch (hcrash : p.crashes = false) (hintime : p.startup ≤ b.infrastructure)
    (diagnostics : List Diagnostic) (files : FileTree) (start : ℚ) :
    s.follow b ⟨start, b.infrastructure⟩ (.launch p.host start) diagnostics files start =
      s.supervise b (.launch p.host start) diagnostics files
        (start + p.noticed s.pollInterval b.infrastructure) := by
  obtain ⟨hheld, hnow⟩ := awaitStart_launch hp hstartup hduration hinfrastructure hintime start
  have hnoticed := p.startup_le_noticed hp hintime
  have hready : (Handle.launch p.host start).started
      (start + p.noticed s.pollInterval b.infrastructure) = true := by
    rw [Handle.started_of_crash_none rfl (p.crash_host_eq_none hcrash)]
    exact decide_eq_true (add_le_add_right hnoticed start)
  rw [← hnow] at hready
  rw [follow_of_ready hheld hready, hnow]

end Sandbox

/-! ## Runs -/

/-- How a run fares whose program gets ready and ends as planned. -/
structure RunRecord.Timed (r : RunRecord ℚ RunResult) (s : Sandbox ℚ) (p : ToolchainPlan ℚ)
    (b : RunBudget ℚ) (start : ℚ) : Prop where
  /-- The budget for starting up runs out iff getting ready takes longer. To use it up is fine. -/
  late : r.InfrastructureTimedOut ↔ b.infrastructure < p.startup
  lateAt : b.infrastructure < p.startup →
    r.now = start + b.infrastructure ∧ ∃ h, r.handle = some h ∧ h.killed = true
  /-- Otherwise the program is noticed to be ready. -/
  noticed : p.startup ≤ b.infrastructure →
    let polled := s.awaitStart ⟨start, b.infrastructure⟩ (.launch p.host start) start
    polled.held = true ∧ polled.now = start + p.noticed s.pollInterval b.infrastructure
  /-- From then on its own budget runs. -/
  overrun : p.startup ≤ b.infrastructure →
    (r.UserCodeTimedOut ↔
      p.noticed s.pollInterval b.infrastructure + b.userCode < p.startup + p.duration)
  overrunAt : p.startup ≤ b.infrastructure →
    p.noticed s.pollInterval b.infrastructure + b.userCode < p.startup + p.duration →
      r.now = start + p.noticed s.pollInterval b.infrastructure + b.userCode
  /-- If that is enough there is a result, from the moment on that the end is noticed. -/
  finished : p.startup ≤ b.infrastructure →
    p.startup + p.duration ≤ p.noticed s.pollInterval b.infrastructure + b.userCode →
      (∃ result, r.answer = .ok result) ∧
        r.now = start + p.noticed s.pollInterval b.infrastructure + min (s.pollInterval *
          ⌈max (p.startup + p.duration - p.noticed s.pollInterval b.infrastructure) 0 /
            s.pollInterval⌉) b.userCode
  /-- A program that takes no longer than its budget is never told to. -/
  short : p.duration ≤ b.userCode → ¬ r.UserCodeTimedOut
  /-- One that takes an interval longer always is, once it got ready in time. -/
  long : p.startup ≤ b.infrastructure → b.userCode + s.pollInterval ≤ p.duration →
    r.UserCodeTimedOut

namespace Sandbox

/-- A program that is launched at `start` fares as its durations and its budgets tell. -/
theorem follow_timed {s : Sandbox ℚ} (hp : 0 < s.pollInterval) {p : ToolchainPlan ℚ}
    (hstartup : 0 ≤ p.startup) (hduration : 0 ≤ p.duration) (hcrash : p.crashes = false)
    {b : RunBudget ℚ} (hinfrastructure : 0 < b.infrastructure) (huserCode : 0 < b.userCode)
    (diagnostics : List Diagnostic) (files : FileTree) (start : ℚ) :
    (s.follow b ⟨start, b.infrastructure⟩ (.launch p.host start) diagnostics files start).Timed
      s p b start := by
  have hnoticed : p.startup ≤ b.infrastructure → _ := fun hintime =>
    awaitStart_launch hp hstartup hduration hinfrastructure hintime start
  rcases lt_or_ge b.infrastructure p.startup with hlate | hintime
  -- the program is never noticed to be ready
  · rw [follow_late hp hduration hinfrastructure hlate]
    exact
      { late := by simp [hlate]
        lateAt := fun _ => ⟨rfl, _, rfl, rfl⟩
        noticed := hnoticed
        overrun := fun hintime => absurd hlate hintime.not_gt
        overrunAt := fun hintime => absurd hlate hintime.not_gt
        finished := fun hintime => absurd hlate hintime.not_gt
        short := by simp
        long := fun hintime => absurd hlate hintime.not_gt }
  have hready : p.startup ≤ p.noticed s.pollInterval b.infrastructure :=
    p.startup_le_noticed hp hintime
  have hsoon : p.noticed s.pollInterval b.infrastructure < p.startup + s.pollInterval :=
    p.noticed_lt hp
  rw [follow_launch hp hstartup hduration hinfrastructure hcrash hintime]
  rcases lt_or_ge (p.noticed s.pollInterval b.infrastructure + b.userCode)
    (p.startup + p.duration) with hover | hfits
  -- its own budget runs out
  · have hend : start + p.noticed s.pollInterval b.infrastructure + b.userCode <
        start + p.startup + p.duration := by linarith
    rw [supervise_overrun hp hcrash huserCode hend]
    exact
      { late := by simp [hintime.not_gt]
        lateAt := fun hlate => absurd hlate hintime.not_gt
        noticed := hnoticed
        overrun := by simp [hover]
        overrunAt := fun _ _ => rfl
        finished := fun _ hfits => absurd hover hfits.not_gt
        short := fun hshort => absurd hover (by linarith)
        long := by simp }
  -- it ends in time
  · have hend : start + p.startup + p.duration ≤
        start + p.noticed s.pollInterval b.infrastructure + b.userCode := by linarith
    have hspan : start + p.startup + p.duration -
        (start + p.noticed s.pollInterval b.infrastructure) =
          p.startup + p.duration - p.noticed s.pollInterval b.infrastructure := by ring
    obtain ⟨result, hresult⟩ := supervise_finished hp hcrash huserCode hend diagnostics files
    rw [hresult, hspan]
    exact
      { late := by simp [hintime.not_gt]
        lateAt := fun hlate => absurd hlate hintime.not_gt
        noticed := hnoticed
        overrun := by simp [hfits.not_gt]
        overrunAt := fun _ hover => absurd hover hfits.not_gt
        finished := fun _ _ => ⟨⟨result, rfl⟩, rfl⟩
        short := by simp
        long := fun _ hlong => absurd hfits (by linarith) }

/-- When a planned run exceeds which of its budgets, and when it ends.

1. A compilation that never ends uses up the budget for starting up, and nothing is launched.
2. A host that crashes is told of iff that happens within this budget.
3. Any other program fares as its durations and the budgets tell.

The entry buffer, which every workspace of a request has, is there for reports without a place. -/
theorem run_ofPlan_timing (p : ToolchainPlan ℚ) (hstartup : 0 ≤ p.startup)
    (hduration : 0 ≤ p.duration) (default : RunBudget ℚ) {interval : ℚ} (hp : 0 < interval)
    {w : Workspace} {entry : Buffer} (hentry : w.entryBuffer = .ok entry) {files : FileTree}
    (hfiles : FileTree.ofFiles w.files = .ok files) (budget : Option (RunBudget ℚ))
    (hinfrastructure : 0 < (budget.getD default).infrastructure)
    (huserCode : 0 < (budget.getD default).userCode) (start : ℚ) :
    let s : Sandbox ℚ := ⟨.ofPlan p, default, interval⟩
    let b := budget.getD default
    let record := s.run w budget start
    (p.isBlocked = true → record.InfrastructureTimedOut ∧ record.now = start + b.infrastructure ∧
      record.handle = none) ∧
    (p.isBlocked = false → p.compiles = true → p.crashes = true →
      (record.HostEnded ↔ p.startup ≤ b.infrastructure) ∧
        (record.InfrastructureTimedOut ↔ b.infrastructure < p.startup)) ∧
    (p.isBlocked = false → p.compiles = true → p.crashes = false → record.Timed s p b start) := by
  intro s b record
  refine ⟨?_, ?_, ?_⟩
  · intro hblocked
    have hrecord : record = _ := run_ofPlan_of_blocked hp hblocked start
    have hend : max start (start + b.infrastructure) = start + b.infrastructure :=
      max_eq_right (by linarith)
    rw [hrecord]
    exact ⟨.inl ⟨_, rfl⟩, hend, rfl⟩
  · intro hblocked hcompiles hcrash
    obtain ⟨diagnostics, hrun⟩ := run_ofPlan_of_written interval hentry hblocked
      hinfrastructure hcompiles hfiles start
    have hrecord : record = _ := hrun
    rw [hrecord]
    rcases lt_or_ge b.infrastructure p.startup with hlate | hintime
    · have hfollow := follow_late (s := s) (b := b) hp hduration hinfrastructure hlate diagnostics
        files start
      rw [hfollow]
      simp [hlate, hlate.not_ge]
    · have hended := follow_crashed (s := s) (b := b) hp hstartup hduration hinfrastructure hcrash
        hintime diagnostics files start
      exact ⟨iff_of_true hended hintime,
        iff_of_false hended.not_infrastructureTimedOut hintime.not_gt⟩
  · intro hblocked hcompiles hcrash
    obtain ⟨diagnostics, hrun⟩ := run_ofPlan_of_written interval hentry hblocked
      hinfrastructure hcompiles hfiles start
    have hrecord : record = _ := hrun
    rw [hrecord]
    exact follow_timed (s := s) (b := b) hp hstartup hduration hcrash hinfrastructure huserCode
      diagnostics files start

/-- A program that gets ready at the very end of the budget for starting up, between two looks, and
then takes all of its own budget. -/
theorem run_ofPlan_timing_at_both_ends :
    let p : ToolchainPlan ℚ := ⟨[], true, false, [], none, 5, 15, 0, false, "", none⟩
    let s : Sandbox ℚ := ⟨.ofPlan p, ⟨5, 15⟩, 2⟩
    let w : Workspace := ⟨"script", [⟨"", "x = 1", none⟩], [], [⟨"a.txt", "1"⟩], none⟩
    (0 ≤ p.startup ∧ 0 ≤ p.duration ∧ (0 : ℚ) < 2 ∧ (0 : ℚ) < 5 ∧ (0 : ℚ) < 15) ∧
      w.entryBuffer = .ok ⟨"", "x = 1", none⟩ ∧ (∃ files, FileTree.ofFiles w.files = .ok files) ∧
      (s.run w none 7).Timed s p ⟨5, 15⟩ 7 ∧ ¬ (s.run w none 7).InfrastructureTimedOut ∧
      ¬ (s.run w none 7).UserCodeTimedOut := by
  intro p s w
  have hstartup : (0 : ℚ) ≤ 5 := by norm_num
  have hduration : (0 : ℚ) ≤ 15 := by norm_num
  have hp : (0 : ℚ) < 2 := by norm_num
  have hinfrastructure : (0 : ℚ) < 5 := by norm_num
  have huserCode : (0 : ℚ) < 15 := by norm_num
  have hentry : w.entryBuffer = .ok ⟨"", "x = 1", none⟩ := rfl
  have hfiles : FileTree.ofFiles w.files = .ok ⟨[(["a.txt".toList], .file "1")]⟩ := by decide
  obtain ⟨-, -, htimed⟩ := run_ofPlan_timing p hstartup hduration ⟨5, 15⟩ hp hentry hfiles none
    hinfrastructure huserCode 7
  have hrun := htimed rfl rfl rfl
  exact ⟨⟨hstartup, hduration, hp, hinfrastructure, huserCode⟩, hentry, ⟨_, hfiles⟩, hrun,
    fun hlate => lt_irrefl (5 : ℚ) (hrun.late.mp hlate), hrun.short le_rfl⟩

end Sandbox

end Playground
