import Mathlib.Data.Rat.Floor
import Mathlib.Tactic.Linarith
import Playground.Clock.Deadline

/-!
# Exact time

On fractions nothing is rounded: the operations of a clock are those of ordered arithmetic, and the
steps that a scale counts are as many as it takes to cover a span, no more.

- `steps_le_iff` and `steps_eq_ceil`: so many steps cover a span iff they are as long as it.
- `sleep_least_remaining`: one round of waiting moves the clock by the interval, or to the end of
  the budget, whichever comes first.
-/

namespace Playground

namespace TimeScale

theorem least_eq_min (a b : ℚ) : least a b = min a b := by
  unfold least
  rcases lt_or_ge b a with h | h
  · rw [if_pos h, min_eq_right h.le]
  · rw [if_neg (not_lt.mpr h), min_eq_left h]

theorem positivePart_eq_max (a : ℚ) : positivePart a = max a 0 := by
  unfold positivePart
  rcases lt_or_ge a 0 with h | h
  · rw [if_pos h, max_eq_right h.le]
  · rw [if_neg (not_lt.mpr h), max_eq_left h]

/-- So many steps cover a span iff they are as long as it. -/
theorem steps_le_iff {span step : ℚ} (hstep : 0 < step) (n : ℕ) :
    steps span step ≤ n ↔ span ≤ n * step := by
  show (if 0 < step then (span / step).ceil.toNat else 0) ≤ n ↔ _
  rw [if_pos hstep, Int.toNat_le, Rat.ceil_le_iff, Int.cast_natCast, div_le_iff₀ hstep]

/-- The steps to a span that is not negative are what a division tells. -/
theorem steps_eq_ceil {span step : ℚ} (hspan : 0 ≤ span) (hstep : 0 < step) :
    (steps span step : ℚ) = ⌈span / step⌉ := by
  have hnonneg : 0 ≤ ⌈span / step⌉ := Int.ceil_nonneg (div_nonneg hspan hstep.le)
  have hceil : (span / step).ceil = ⌈span / step⌉ := Rat.ceil_eq_neg_floor_neg _
  have hsteps : steps span step = (span / step).ceil.toNat := if_pos hstep
  rw [hsteps, hceil, ← Int.cast_natCast, Int.toNat_of_nonneg hnonneg]

end TimeScale

namespace Clock

theorem sleep_eq_add_max (now seconds : ℚ) : sleep now seconds = now + max seconds 0 := by
  unfold sleep
  rcases lt_or_ge 0 seconds with h | h
  · rw [if_pos h, max_eq_left h.le]
  · rw [if_neg (not_lt.mpr h), max_eq_right h, add_zero]

end Clock

namespace Deadline

theorem isExpired_eq_true_iff (d : Deadline ℚ) (now : ℚ) :
    d.isExpired now = true ↔ d.expiresAt ≤ now := by
  simp [isExpired]

theorem isExpired_eq_false_iff (d : Deadline ℚ) (now : ℚ) :
    d.isExpired now = false ↔ now < d.expiresAt := by
  simp [isExpired]

/-- The time that is left is what the clock lacks to the end of the budget. -/
theorem remaining_eq_max (d : Deadline ℚ) (now : ℚ) :
    d.remaining now = max (d.expiresAt - now) 0 :=
  TimeScale.positivePart_eq_max _

/-- One round of waiting moves the clock by the interval, or to the end of the budget. -/
theorem sleep_least_remaining (d : Deadline ℚ) {now interval : ℚ} (hp : 0 < interval)
    (hnow : now < d.expiresAt) :
    Clock.sleep now (TimeScale.least interval (d.remaining now)) =
      min (now + interval) d.expiresAt := by
  have hleft : d.remaining now = d.expiresAt - now := by
    rw [remaining_eq_max, max_eq_left (by linarith)]
  have hpos : 0 < min interval (d.expiresAt - now) := lt_min hp (by linarith)
  rw [Clock.sleep_eq_add_max, TimeScale.least_eq_min, hleft, max_eq_left hpos.le,
    ← min_add_add_left, add_sub_cancel]

end Deadline

end Playground
