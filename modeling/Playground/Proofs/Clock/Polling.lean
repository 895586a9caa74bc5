import Playground.Proofs.Clock.Exact

/-!
# Polling

A deadline is polled at fixed instants: when polling begins, then every interval, and once more at
the end of the budget.

- `instant`: the instants, none of them after the end of the budget.
- `poll_eq`: polling ends at the first instant at which its condition holds or no time is left.
- `poll_reached` and `poll_missed`: what comes of waiting for a time to be reached. The answer
  depends on nothing but whether that time is within the budget, its very end included.
- `poll_within` and `poll_beyond`: the same for a budget that starts when polling begins.
- `condition_of_poll_held`: on any scale of time, polling tells only what it has seen.
-/

namespace Playground.Deadline

variable (d : Deadline ℚ) {interval : ℚ}

/-- The instants at which a deadline is looked at that is polled from `now` on. -/
def instant (now interval : ℚ) (k : ℕ) : ℚ :=
  min (now + k * interval) (max now d.expiresAt)

@[simp] theorem instant_zero (now : ℚ) : d.instant now interval 0 = now := by
  simp [instant]

/-- The instants after the first one are those of a poll that begins one round later. -/
theorem instant_succ (hp : 0 < interval) {now : ℚ} (hnow : now < d.expiresAt) (k : ℕ) :
    d.instant now interval (k + 1) =
      d.instant (min (now + interval) d.expiresAt) interval k := by
  have hk : (0 : ℚ) ≤ k * interval := mul_nonneg k.cast_nonneg hp.le
  unfold instant
  rw [max_eq_right hnow.le, max_eq_right (min_le_right _ _), Nat.cast_add, Nat.cast_one]
  rcases le_total (now + interval) d.expiresAt with h | h
  · rw [min_eq_left h, add_mul, one_mul, add_assoc, add_comm interval]
  · rw [min_eq_right h, min_eq_right, min_eq_right] <;> linarith

/-- Only so many instants lie before the end of the budget as the rounds that fit into it. -/
theorem lt_steps_of_instant_lt (hp : 0 < interval) {now : ℚ} {k : ℕ}
    (hk : d.instant now interval k < d.expiresAt) :
    k < TimeScale.steps (d.remaining now) interval := by
  by_contra hle
  have hcover : d.remaining now ≤ k * interval :=
    (TimeScale.steps_le_iff hp k).mp (not_lt.mp hle)
  have hleft : d.expiresAt - now ≤ d.remaining now := by
    rw [remaining_eq_max]
    exact le_max_left _ _
  have hend : d.expiresAt ≤ d.instant now interval k :=
    le_min (by linarith) (le_max_right _ _)
  linarith

/-- A poll with enough rounds ends at the first instant at which its condition holds or no time is
left. The induction is on that instant: a round in which neither is the case begins the same poll
one instant later. -/
theorem pollRounds_eq (condition : ℚ → Bool) (hp : 0 < interval) :
    ∀ (k rounds looks : ℕ) (now : ℚ), k < rounds →
      (∀ i < k, condition (d.instant now interval i) = false ∧
        d.instant now interval i < d.expiresAt) →
      (condition (d.instant now interval k) = true ∨
        d.expiresAt ≤ d.instant now interval k) →
      d.pollRounds condition interval rounds looks now =
        ⟨condition (d.instant now interval k), looks + k + 1, d.instant now interval k⟩
  | 0, rounds + 1, looks, now, _, _, hend => by
    rw [instant_zero] at hend ⊢
    rw [pollRounds]
    cases hc : condition now with
    | true => rfl
    | false =>
      have hexp : d.isExpired now = true :=
        (d.isExpired_eq_true_iff now).mpr (hend.resolve_left (by simp [hc]))
      rw [hexp]
      rfl
  | k + 1, rounds + 1, looks, now, hk, hbefore, hend => by
    -- at the first instant neither is the case, so the clock moves on
    have hfirst := hbefore 0 k.succ_pos
    rw [instant_zero] at hfirst
    obtain ⟨hc, hnow⟩ := hfirst
    rw [pollRounds, hc, (d.isExpired_eq_false_iff now).mpr hnow, d.sleep_least_remaining hp hnow]
    rw [d.instant_succ hp hnow] at hend ⊢
    have hrest : ∀ i < k,
        condition (d.instant (min (now + interval) d.expiresAt) interval i) = false ∧
          d.instant (min (now + interval) d.expiresAt) interval i < d.expiresAt := by
      intro i hi
      rw [← d.instant_succ hp hnow]
      exact hbefore (i + 1) (Nat.succ_lt_succ hi)
    have ih := pollRounds_eq condition hp k rounds (looks + 1) _ (Nat.lt_of_succ_lt_succ hk)
      hrest hend
    rw [show looks + (k + 1) + 1 = looks + 1 + k + 1 by omega]
    exact ih

/-- Polling ends at the first instant at which its condition holds or no time is left, and has
looked once at every instant up to there. -/
theorem poll_eq (condition : ℚ → Bool) (hp : 0 < interval) {now : ℚ} {k : ℕ}
    (hbefore : ∀ i < k, condition (d.instant now interval i) = false ∧
      d.instant now interval i < d.expiresAt)
    (hend : condition (d.instant now interval k) = true ∨
      d.expiresAt ≤ d.instant now interval k) :
    d.poll now condition interval =
      ⟨condition (d.instant now interval k), k + 1, d.instant now interval k⟩ := by
  have hk : k < d.rounds now interval + 1 := by
    show k < TimeScale.steps (d.remaining now) interval + 1 + 1
    cases k with
    | zero => omega
    | succ k =>
      -- one more round than fit before the end of the budget is enough to get there
      have := d.lt_steps_of_instant_lt hp (hbefore k (Nat.lt_succ_self k)).2
      omega
  have h := d.pollRounds_eq condition hp k _ 0 now hk hbefore hend
  rw [Nat.zero_add] at h
  exact h

/-! ## Waiting for a time -/

/-- How many rounds it takes until a time is reached. -/
def roundsUntil (now interval due : ℚ) : ℕ :=
  TimeScale.steps (max (due - now) 0) interval

/-- The time is not reached in fewer rounds. -/
theorem add_mul_lt_of_lt_roundsUntil (hp : 0 < interval) {now due : ℚ} {i : ℕ}
    (hi : i < roundsUntil now interval due) : now + i * interval < due := by
  have hlt : ¬ max (due - now) 0 ≤ i * interval := fun h =>
    absurd hi (not_lt.mpr ((TimeScale.steps_le_iff hp i).mpr h))
  have hnonneg : (0 : ℚ) ≤ i * interval := mul_nonneg i.cast_nonneg hp.le
  rcases lt_max_iff.mp (not_le.mp hlt) with h | h <;> linarith

/-- The time is reached in so many rounds. -/
theorem le_add_roundsUntil_mul (hp : 0 < interval) (now due : ℚ) :
    due ≤ now + roundsUntil now interval due * interval := by
  have h : max (due - now) 0 ≤ roundsUntil now interval due * interval :=
    (TimeScale.steps_le_iff hp _).mp le_rfl
  have := le_max_left (due - now) 0
  linarith

/-- A time within the budget, its very end included, is noticed at the first instant that is not
before it. -/
theorem poll_reached (hp : 0 < interval) {now due : ℚ} (hdue : due ≤ d.expiresAt) :
    d.poll now (fun t => due ≤ t) interval =
      ⟨true, roundsUntil now interval due + 1,
        d.instant now interval (roundsUntil now interval due)⟩ := by
  have hreached : due ≤ d.instant now interval (roundsUntil now interval due) :=
    le_min (le_add_roundsUntil_mul hp now due) (hdue.trans (le_max_right _ _))
  rw [d.poll_eq _ hp (k := roundsUntil now interval due) ?_ (.inl (by simpa using hreached))]
  · simpa using hreached
  · intro i hi
    have hlt : d.instant now interval i < due :=
      (min_le_left _ _).trans_lt (add_mul_lt_of_lt_roundsUntil hp hi)
    exact ⟨by simpa using hlt, hlt.trans_le hdue⟩

/-- A time after the end of the budget is never noticed: the poll gives up when the budget runs
out. -/
theorem poll_missed (hp : 0 < interval) {now due : ℚ} (hnow : now ≤ d.expiresAt)
    (hdue : d.expiresAt < due) :
    d.poll now (fun t => due ≤ t) interval =
      ⟨false, roundsUntil now interval d.expiresAt + 1, d.expiresAt⟩ := by
  have hlast : d.instant now interval (roundsUntil now interval d.expiresAt) = d.expiresAt := by
    unfold instant
    rw [max_eq_right hnow, min_eq_right (le_add_roundsUntil_mul hp now _)]
  rw [d.poll_eq _ hp (k := roundsUntil now interval d.expiresAt) ?_ (.inr hlast.ge), hlast]
  · simpa using hdue
  · intro i hi
    have hlt : d.instant now interval i < d.expiresAt :=
      (min_le_left _ _).trans_lt (add_mul_lt_of_lt_roundsUntil hp hi)
    exact ⟨by simpa using hlt.trans hdue, hlt⟩

/-! ## From the start of a budget on -/

/-- After so many rounds as many intervals have passed as it takes to reach the time, or the whole
budget. -/
theorem instant_roundsUntil (hp : 0 < interval) {budget : ℚ} (hbudget : 0 ≤ budget)
    (now due : ℚ) :
    (⟨now, budget⟩ : Deadline ℚ).instant now interval (roundsUntil now interval due) =
      now + min (interval * ⌈max (due - now) 0 / interval⌉) budget := by
  have hend : max now (now + budget) = now + budget := max_eq_right (by linarith)
  show min _ (max now (now + budget)) = _
  rw [hend, min_add_add_left, roundsUntil, TimeScale.steps_eq_ceil (le_max_right _ _) hp, mul_comm]

section

variable {τ : Type} [TimeScale τ] (d : Deadline τ) {condition : τ → Bool} {interval now : τ}

/-- A condition that holds already is noticed at once, even if no time is left. -/
theorem poll_of_holds (h : condition now = true) :
    d.poll now condition interval = ⟨true, 1, now⟩ := by
  rw [poll, pollRounds, if_pos h]

/-- Polling that tells that its condition holds has just seen it. -/
theorem condition_of_pollRounds_held {rounds looks : ℕ}
    (h : (d.pollRounds condition interval rounds looks now).held = true) :
    condition (d.pollRounds condition interval rounds looks now).now = true := by
  induction rounds generalizing looks now with
  | zero => cases h
  | succ rounds ih =>
    rw [pollRounds] at h ⊢
    split at h
    · next hnow => exact if_pos hnow ▸ hnow
    · next hnow =>
      split at h
      · cases h
      · next hleft =>
        rw [if_neg hnow, if_neg hleft]
        exact ih h

theorem condition_of_poll_held (h : (d.poll now condition interval).held = true) :
    condition (d.poll now condition interval).now = true :=
  d.condition_of_pollRounds_held h

end

/-- What comes of waiting for a time within a budget that starts now. -/
theorem poll_within (hp : 0 < interval) {budget : ℚ} (hbudget : 0 ≤ budget) {now due : ℚ}
    (hdue : due ≤ now + budget) :
    let polled := (⟨now, budget⟩ : Deadline ℚ).poll now (fun t => due ≤ t) interval
    polled.held = true ∧
      polled.now = now + min (interval * ⌈max (due - now) 0 / interval⌉) budget := by
  intro polled
  have hpolled : polled = _ := poll_reached ⟨now, budget⟩ hp hdue
  rw [hpolled]
  exact ⟨rfl, instant_roundsUntil hp hbudget now due⟩

/-- What comes of waiting for a time after the end of a budget that starts now. -/
theorem poll_beyond (hp : 0 < interval) {budget : ℚ} (hbudget : 0 ≤ budget) {now due : ℚ}
    (hdue : now + budget < due) :
    let polled := (⟨now, budget⟩ : Deadline ℚ).poll now (fun t => due ≤ t) interval
    polled.held = false ∧ polled.now = now + budget := by
  intro polled
  have hpolled : polled = _ := poll_missed ⟨now, budget⟩ hp (le_add_of_nonneg_right hbudget) hdue
  rw [hpolled]
  exact ⟨rfl, rfl⟩

end Playground.Deadline
