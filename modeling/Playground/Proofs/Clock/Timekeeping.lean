import Mathlib.Data.List.Infix
import Mathlib.Order.Monotone.Basic
import Playground.Proofs.Clock.Exact

/-!
# Timekeeping

What holds of a clock and of the deadlines on it, whatever is done with the clock. All of it comes
from one fact about each step: the clock does not go back. Polls and waits move the clock in rounds,
so for them the fact is shown round by round, for any number of rounds and intervals of any length;
that the rounds come to an end where intervals are positive is shown for polls and waits alone.

- `remaining_antitone`, `isExpired_eq_true_iff_remaining` and `elapsed_add_remaining`: what a
  deadline tells as time goes on, and at one time.
- `le_step` and `deadlines_prefix_step`: what a step does to the clock and to its deadlines.
- `step_eq_error_iff`: which steps are refused.
- `KeepsTime` and `run_keepsTime`: what follows for the steps of a run, and for any two times in it.
-/

namespace Playground

namespace Clock

theorem le_sleep (now seconds : ℚ) : now ≤ sleep now seconds := by
  rw [sleep_eq_add_max]
  exact le_add_of_nonneg_right (le_max_right _ _)

theorem le_wait (now seconds : ℚ) (work : Completion ℚ) : now ≤ (wait now work seconds).2 := by
  cases work with
  | done => exact le_rfl
  | due time => exact le_sleep now seconds
  | never => exact le_sleep now seconds

/-- A clock is moved forward or not at all. -/
theorem advance_eq_ok_iff {now seconds later : ℚ} :
    advance now seconds = .ok later ↔ 0 ≤ seconds ∧ later = now + seconds := by
  unfold advance
  split
  · next hneg => exact iff_of_false nofun fun h => absurd h.1 (not_le.mpr hneg)
  · next hnonneg =>
    rw [Except.ok.injEq, eq_comm]
    exact (and_iff_right (not_lt.mp hnonneg)).symm

theorem advance_eq_error_iff {now seconds : ℚ} {cause : ClockError} :
    advance now seconds = .error cause ↔ seconds < 0 := by
  unfold advance
  cases cause
  split
  · next hneg => exact iff_of_true rfl hneg
  · next hnonneg => exact iff_of_false nofun hnonneg

end Clock

namespace Deadline

variable (d : Deadline ℚ)

/-! ## What deadlines tell -/

/-- As time goes on, less and less is left. -/
theorem remaining_antitone : Antitone d.remaining := by
  intro now later hle
  rw [remaining_eq_max, remaining_eq_max]
  exact max_le_max_right 0 (by linarith)

/-- What has expired stays expired. -/
theorem isExpired_of_le {now later : ℚ} (hle : now ≤ later) (hexp : d.isExpired now = true) :
    d.isExpired later = true := by
  rw [isExpired_eq_true_iff] at hexp ⊢
  exact hexp.trans hle

theorem isExpired_eq_true_iff_remaining (now : ℚ) :
    d.isExpired now = true ↔ d.remaining now = 0 := by
  rw [isExpired_eq_true_iff, remaining_eq_max, max_eq_right_iff, sub_nonpos]

/-- While some time is left, that time and the time since the start make up the budget. -/
theorem elapsed_add_remaining {now : ℚ} (hexp : d.isExpired now = false) :
    d.elapsed now + d.remaining now = d.budget := by
  rw [isExpired_eq_false_iff] at hexp
  rw [remaining_eq_max, max_eq_left (by linarith)]
  show now - d.startedAt + (d.startedAt + d.budget - now) = d.budget
  ring

/-- What a deadline tells at a time fits together. -/
structure Coherent (now : ℚ) : Prop where
  startedAt : d.startedAt ≤ now
  expired : d.isExpired now = true ↔ d.remaining now = 0
  /-- While some time is left, that time and the time since the start make up the budget. -/
  budget : d.isExpired now = false → d.elapsed now + d.remaining now = d.budget

theorem coherent_of_le {now : ℚ} (hle : d.startedAt ≤ now) : d.Coherent now :=
  ⟨hle, d.isExpired_eq_true_iff_remaining now, d.elapsed_add_remaining⟩

/-! ## Polls and waits -/

/-- Rounds of polling do not move the clock back, since none of them does. -/
theorem le_pollRounds (condition : ℚ → Bool) (interval : ℚ) :
    ∀ (rounds looks : ℕ) (now : ℚ),
      now ≤ (d.pollRounds condition interval rounds looks now).now
  | 0, _, _ => le_rfl
  | rounds + 1, looks, now => by
    rw [pollRounds]
    split
    · exact le_rfl
    · split
      · exact le_rfl
      · exact (Clock.le_sleep _ _).trans (le_pollRounds condition interval rounds _ _)

theorem le_poll (now : ℚ) (condition : ℚ → Bool) (interval : ℚ) :
    now ≤ (d.poll now condition interval).now :=
  d.le_pollRounds condition interval _ _ now

/-- Nor do rounds of waiting. -/
theorem le_waitRounds (work : Completion ℚ) (interval : ℚ) :
    ∀ (rounds : ℕ) (now : ℚ), now ≤ (d.waitRounds work interval rounds now).2
  | 0, _ => le_rfl
  | rounds + 1, now => by
    have hround := Clock.le_wait now (TimeScale.least interval (d.remaining now)) work
    rw [waitRounds]
    split
    · exact le_rfl
    · dsimp only
      split
      · exact hround
      · exact hround.trans (le_waitRounds work interval rounds _)

theorem le_waitFor (now : ℚ) (work : Completion ℚ) (interval : ℚ) :
    now ≤ (d.waitFor now work interval).2 :=
  d.le_waitRounds work interval _ now

end Deadline

namespace Timekeeper

variable (k : Timekeeper ℚ) (s : ClockStep ℚ)

/-! ## Steps -/

/-- No step moves the clock back. -/
theorem le_step : k.now ≤ (k.step s).2.now := by
  cases s with
  | advance seconds =>
    rw [step]
    split
    · next hok =>
      obtain ⟨hnonneg, rfl⟩ := Clock.advance_eq_ok_iff.mp hok
      exact le_add_of_nonneg_right hnonneg
    · exact le_rfl
  | sleep seconds => exact Clock.le_sleep _ _
  | wait work seconds => exact Clock.le_wait _ _ _
  | start budget => exact le_rfl
  | poll d condition interval => exact d.le_poll _ _ _
  | waitFor d work interval => exact d.le_waitFor _ _ _

/-- A step starts a deadline, then and there, or leaves the deadlines as they are. -/
theorem deadlines_step :
    (k.step s).2.deadlines = k.deadlines ∨
      ∃ budget, (k.step s).2.deadlines = k.deadlines ++ [⟨k.now, budget⟩] := by
  cases s with
  | advance seconds =>
    rw [step]
    split <;> exact .inl rfl
  | start budget => exact .inr ⟨budget, rfl⟩
  | sleep | wait | poll | waitFor => exact .inl rfl

theorem deadlines_prefix_step : k.deadlines <+: (k.step s).2.deadlines := by
  rcases k.deadlines_step s with h | ⟨budget, h⟩ <;> rw [h]
  exact List.prefix_append _ _

/-- A step is refused iff it would move the clock back. -/
theorem step_eq_error_iff {cause : ClockError} :
    (k.step s).1 = .error cause ↔ ∃ seconds < 0, s = .advance seconds := by
  cases s with
  | advance seconds =>
    have herror : (k.step (.advance seconds)).1 = .error cause ↔
        Clock.advance k.now seconds = .error cause := by
      rw [step]
      cases Clock.advance k.now seconds <;> simp
    rw [herror, Clock.advance_eq_error_iff]
    simp
  | sleep | wait | start | poll | waitFor => exact iff_of_false nofun fun ⟨_, _, h⟩ => nomatch h

/-- What is refused leaves the clock and its deadlines as they were. -/
theorem step_of_error {cause : ClockError} (h : (k.step s).1 = .error cause) :
    (k.step s).2 = k := by
  obtain ⟨seconds, hneg, rfl⟩ := (k.step_eq_error_iff s).mp h
  have hrefused : Clock.advance k.now seconds = .error cause :=
    Clock.advance_eq_error_iff.mpr hneg
  rw [step, hrefused]

/-! ## Runs -/

theorem le_run (steps : List (ClockStep ℚ)) : k.now ≤ (k.run steps).now := by
  induction steps generalizing k with
  | nil => exact le_rfl
  | cons s rest ih => exact (k.le_step s).trans (ih _)

theorem deadlines_prefix_run (steps : List (ClockStep ℚ)) :
    k.deadlines <+: (k.run steps).deadlines := by
  induction steps generalizing k with
  | nil => exact List.prefix_rfl
  | cons s rest ih => exact (k.deadlines_prefix_step s).trans (ih _)

/-- No deadline has been started after the time that the clock shows. -/
def Started : Prop :=
  ∀ d ∈ k.deadlines, d.startedAt ≤ k.now

variable {k} in
theorem Started.step (h : k.Started) : (k.step s).2.Started := by
  intro d hd
  have hle := k.le_step s
  rcases k.deadlines_step s with heq | ⟨budget, heq⟩ <;> rw [heq] at hd
  · exact (h d hd).trans hle
  · rcases List.mem_append.mp hd with hd | hd
    · exact (h d hd).trans hle
    · obtain rfl := List.mem_singleton.mp hd
      exact hle

variable {k} in
theorem Started.run (h : k.Started) (steps : List (ClockStep ℚ)) : (k.run steps).Started := by
  induction steps generalizing k with
  | nil => exact h
  | cons s rest ih => exact ih (h.step s)

/-- A clock keeps time, with the deadlines that were started on it, now and from now on. -/
structure KeepsTime : Prop where
  coherent : ∀ d ∈ k.deadlines, d.Coherent k.now
  /-- The clock does not go back. -/
  now : ∀ steps, k.now ≤ (k.run steps).now
  /-- Deadlines stay as they are. -/
  deadlines : ∀ steps, k.deadlines <+: (k.run steps).deadlines
  expired : ∀ d ∈ k.deadlines, ∀ steps, d.isExpired k.now = true →
    d.isExpired (k.run steps).now = true
  /-- The time that is left never grows. -/
  remaining : ∀ d ∈ k.deadlines, ∀ steps, d.remaining (k.run steps).now ≤ d.remaining k.now
  /-- Refused is what would move the clock back, and nothing changes then. -/
  refused : ∀ s cause, (k.step s).1 = .error cause ↔ ∃ seconds < 0, s = .advance seconds
  unchanged : ∀ s cause, (k.step s).1 = .error cause → (k.step s).2 = k

/-- A clock keeps time at every moment of a run: through any steps before it, and any steps after
it. -/
theorem run_keepsTime (start : ℚ) (steps : List (ClockStep ℚ)) :
    ((ofStart start).run steps).KeepsTime := by
  have hstarted : (ofStart start).Started := List.forall_mem_nil _
  generalize hk : (ofStart start).run steps = k
  have hk : k.Started := hk ▸ hstarted.run steps
  constructor
  case coherent => exact fun d hd => d.coherent_of_le (hk d hd)
  case now => exact k.le_run
  case deadlines => exact k.deadlines_prefix_run
  case expired => exact fun d _ later => d.isExpired_of_le (k.le_run later)
  case remaining => exact fun d _ later => d.remaining_antitone (k.le_run later)
  case refused => exact fun s _ => k.step_eq_error_iff s
  case unchanged => exact fun s _ => k.step_of_error s

/-- A poll, a step that is refused, and a wait that uses up the budget of the first deadline. The
second one has expired when it is started. -/
example :
    let d : Deadline ℚ := ⟨0, 2⟩
    (ofStart 0).run [.start 2, .poll d (fun t => 1 ≤ t) (3 / 4), .start (-1), .advance (-1),
        .waitFor d .never 1] =
      ⟨2, [d, ⟨3 / 2, -1⟩]⟩ := by
  decide +kernel

end Timekeeper

end Playground
