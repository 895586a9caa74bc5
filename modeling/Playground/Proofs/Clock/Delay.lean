import Mathlib.Tactic.Ring
import Playground.Proofs.Clock.Exact

/-!
# Delays

On exact time a clock has no origin: a wait that begins so much later goes the same way, and ends so
much later.

- `waitFor_delay`: so does a wait for work that is itself delayed.
- `poll_delay`: so does a poll whose condition is delayed.
-/

namespace Playground

/-- Work that is done so much later. -/
def Completion.delay (δ : ℚ) : Completion ℚ → Completion ℚ
  | .done => .done
  | .due time => .due (time + δ)
  | .never => .never

namespace Clock

theorem sleep_delay (δ now seconds : ℚ) : sleep (now + δ) seconds = sleep now seconds + δ := by
  rw [sleep_eq_add_max, sleep_eq_add_max, add_right_comm]

/-- Waiting is the same wherever the clock stands. -/
theorem wait_delay (δ now seconds : ℚ) (work : Completion ℚ) :
    wait (now + δ) (work.delay δ) seconds =
      ((wait now work seconds).1, (wait now work seconds).2 + δ) := by
  cases work with
  | done => rfl
  | due time => simp [wait, Completion.delay, sleep_delay]
  | never => simp [wait, Completion.delay, sleep_delay]

end Clock

namespace Deadline

/-- A deadline that starts so much later. -/
def delay (δ : ℚ) (d : Deadline ℚ) : Deadline ℚ :=
  { d with startedAt := d.startedAt + δ }

/-- A poll that ends so much later. -/
def Polled.delay (δ : ℚ) (p : Polled ℚ) : Polled ℚ :=
  { p with now := p.now + δ }

variable (δ : ℚ) (d : Deadline ℚ) (now interval : ℚ)

theorem expiresAt_delay : (d.delay δ).expiresAt = d.expiresAt + δ :=
  add_right_comm ..

theorem remaining_delay : (d.delay δ).remaining (now + δ) = d.remaining now := by
  rw [remaining_eq_max, remaining_eq_max, expiresAt_delay, add_sub_add_right_eq_sub]

theorem isExpired_delay : (d.delay δ).isExpired (now + δ) = d.isExpired now := by
  unfold isExpired
  rw [expiresAt_delay]
  exact decide_eq_decide.mpr (add_le_add_iff_right δ)

theorem rounds_delay : (d.delay δ).rounds (now + δ) interval = d.rounds now interval := by
  unfold rounds
  rw [remaining_delay]

/-! ## Waiting -/

/-- Rounds of waiting, one by one: each begins so much later, and so does the next. -/
theorem waitRounds_delay (work : Completion ℚ) :
    ∀ (rounds : ℕ) (now : ℚ),
      (d.delay δ).waitRounds (work.delay δ) interval rounds (now + δ) =
        ((d.waitRounds work interval rounds now).1, (d.waitRounds work interval rounds now).2 + δ)
  | 0, now => rfl
  | rounds + 1, now => by
    rw [waitRounds, waitRounds, isExpired_delay, remaining_delay, Clock.wait_delay]
    cases d.isExpired now with
    | true => rfl
    | false =>
      cases hwait : Clock.wait now work (TimeScale.least interval (d.remaining now)) with
      | mk done later =>
        cases done with
        | true => simp [isExpired_delay]
        | false => simpa using waitRounds_delay work rounds later

/-- A wait for work that is delayed along with it ends so much later, and is in time as before. -/
theorem waitFor_delay (work : Completion ℚ) :
    (d.delay δ).waitFor (now + δ) (work.delay δ) interval =
      ((d.waitFor now work interval).1, (d.waitFor now work interval).2 + δ) := by
  rw [waitFor, waitFor, rounds_delay, waitRounds_delay]

/-! ## Polling -/

variable {condition delayed : ℚ → Bool} (hcondition : ∀ t, delayed (t + δ) = condition t)
include hcondition

/-- Rounds of polling, one by one. -/
theorem pollRounds_delay :
    ∀ (rounds looks : ℕ) (now : ℚ),
      (d.delay δ).pollRounds delayed interval rounds looks (now + δ) =
        (d.pollRounds condition interval rounds looks now).delay δ
  | 0, looks, now => rfl
  | rounds + 1, looks, now => by
    rw [pollRounds, pollRounds, hcondition, isExpired_delay, remaining_delay, Clock.sleep_delay]
    cases condition now with
    | true => rfl
    | false =>
      cases d.isExpired now with
      | true => rfl
      | false => simpa using pollRounds_delay rounds (looks + 1) _

/-- A poll whose condition is delayed along with it ends so much later, and holds as before. -/
theorem poll_delay :
    (d.delay δ).poll (now + δ) delayed interval = (d.poll now condition interval).delay δ := by
  rw [poll, poll, rounds_delay, pollRounds_delay δ d interval hcondition]

end Deadline

end Playground
