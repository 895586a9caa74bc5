import Mathlib.Order.Bounds.Basic
import Playground.Proofs.Clock.Polling

/-!
# Waiting for work

When work that is waited for within a budget is in time, and where the clock stands then. Unlike a
poll, a wait whose budget has run out does not even look. It looks at the budget twice in each
round, before the work is waited for and after, so work that is only done when the budget runs out
is late. As a loop it has no bound on its rounds.

- `waitFor_done` and `waitFor_never`: work that is done already, and work that is never done.
- `Waits`: a whole wait, round by round. It says nothing about how many rounds there are.
- `waits_waitFor`: every wait ends, since each round uses up an interval of what is left.
- `waits_due`: work that is done from a time on is noticed after the first interval, of those that
  the wait takes, that ends at that time or after it.
- `waitFor_lateness`: what follows for work of every kind.
-/

namespace Playground.Deadline

section

variable {τ : Type} [TimeScale τ]

/-- Work that is done already is in time iff some of the budget is left, and nothing is waited
for. -/
theorem waitFor_done (d : Deadline τ) (now interval : τ) :
    d.waitFor now .done interval = (!d.isExpired now, now) := by
  rw [waitFor, rounds, waitRounds]
  cases hexp : d.isExpired now with
  | true => rfl
  | false =>
    show (!d.isExpired now, now) = _
    rw [hexp]

/-- A whole wait: the time at which it begins, its answer and the time at which it ends. It ends
where no time is left, or else where the work is done; in the second case it looks once more whether
time is left. -/
inductive Waits (d : Deadline τ) (work : Completion τ) (interval : τ) : τ → Bool → τ → Prop
  | late {now : τ} : d.isExpired now = true → Waits d work interval now false now
  | noticed {now later : τ} : d.isExpired now = false →
      Clock.wait now work (TimeScale.least interval (d.remaining now)) = (true, later) →
      Waits d work interval now (!d.isExpired later) later
  | again {now later last : τ} {inTime : Bool} : d.isExpired now = false →
      Clock.wait now work (TimeScale.least interval (d.remaining now)) = (false, later) →
      Waits d work interval later inTime last → Waits d work interval now inTime last

/-- What a wait does at a time is settled by what is left then and by the work. -/
theorem Waits.unique {d : Deadline τ} {work : Completion τ} {interval now last last' : τ}
    {inTime inTime' : Bool} (h : d.Waits work interval now inTime last)
    (h' : d.Waits work interval now inTime' last') : inTime = inTime' ∧ last = last' := by
  induction h generalizing inTime' last' with
  | late hexp =>
    cases h' with
    | late _ => exact ⟨rfl, rfl⟩
    | noticed hexp' _ => simp [hexp] at hexp'
    | again hexp' _ _ => simp [hexp] at hexp'
  | noticed hexp hwait =>
    cases h' with
    | late hexp' => simp [hexp] at hexp'
    | noticed _ hwait' =>
      rw [hwait] at hwait'
      cases hwait'
      exact ⟨rfl, rfl⟩
    | again _ hwait' _ => simp [hwait] at hwait'
  | again hexp hwait _ ih =>
    cases h' with
    | late hexp' => simp [hexp] at hexp'
    | noticed _ hwait' => simp [hwait] at hwait'
    | again _ hwait' hrest =>
      rw [hwait] at hwait'
      cases hwait'
      exact ih hrest

/-- An answer that the work is in time is given while time is left. -/
theorem Waits.isExpired_eq_false {d : Deadline τ} {work : Completion τ} {interval now last : τ}
    (h : d.Waits work interval now true last) : d.isExpired last = false := by
  generalize hinTime : true = inTime at h
  induction h with
  | late _ => cases hinTime
  | noticed _ _ => simpa using hinTime.symm
  | again _ _ _ ih => exact ih hinTime

end

variable (d : Deadline ℚ) {interval : ℚ}

/-! ## Work that is never done -/

/-- Once no time is left, an instant is as late as any. -/
theorem instant_of_expiresAt_le (hp : 0 < interval) {now : ℚ} (hnow : d.expiresAt ≤ now) (k : ℕ) :
    d.instant now interval k = now := by
  have hk : (0 : ℚ) ≤ k * interval := mul_nonneg k.cast_nonneg hp.le
  unfold instant
  rw [max_eq_left hnow, min_eq_right (by linarith)]

/-- The rounds that fit into a budget use it up. -/
theorem instant_rounds (hp : 0 < interval) (now : ℚ) :
    d.instant now interval (d.rounds now interval) = max now d.expiresAt := by
  have hleft : d.remaining now ≤ (d.rounds now interval : ℚ) * interval :=
    (TimeScale.steps_le_iff hp _).mp (Nat.le_succ _)
  rw [remaining_eq_max, max_le_iff] at hleft
  unfold instant
  exact min_eq_right (max_le (by linarith [hleft.2]) (by linarith [hleft.1]))

/-- Rounds of waiting for work that is never done. -/
theorem waitRounds_never (hp : 0 < interval) :
    ∀ (rounds : ℕ) (now : ℚ),
      d.waitRounds .never interval rounds now = (false, d.instant now interval rounds)
  | 0, now => by
    rw [instant_zero]
    rfl
  | rounds + 1, now => by
    rw [waitRounds]
    rcases lt_or_ge now d.expiresAt with hnow | hnow
    · rw [(d.isExpired_eq_false_iff now).mpr hnow]
      show d.waitRounds .never interval rounds
        (Clock.sleep now (TimeScale.least interval (d.remaining now))) = _
      rw [d.sleep_least_remaining hp hnow, waitRounds_never hp rounds, d.instant_succ hp hnow]
    · rw [(d.isExpired_eq_true_iff now).mpr hnow, d.instant_of_expiresAt_le hp hnow]
      rfl

/-- Work that is never done takes up the whole budget. -/
theorem waitFor_never (hp : 0 < interval) (now : ℚ) :
    d.waitFor now .never interval = (false, max now d.expiresAt) := by
  rw [waitFor, d.waitRounds_never hp, d.instant_rounds hp]

/-! ## Every wait ends -/

/-- What one round of waiting comes to while time is left. -/
theorem wait_least_remaining (hp : 0 < interval) {now : ℚ} (hnow : now < d.expiresAt)
    (work : Completion ℚ) :
    Clock.wait now work (TimeScale.least interval (d.remaining now)) =
      match work with
      | .done => (true, now)
      | .due time => (time ≤ min (now + interval) d.expiresAt, min (now + interval) d.expiresAt)
      | .never => (false, min (now + interval) d.expiresAt) := by
  cases work with
  | done => rfl
  | due time => simp only [Clock.wait, d.sleep_least_remaining hp hnow]
  | never => simp only [Clock.wait, d.sleep_least_remaining hp hnow]

/-- A round of waiting takes an interval, or the last part of one, off what is left. -/
theorem steps_remaining_lt (hp : 0 < interval) {now : ℚ} (hnow : now < d.expiresAt) :
    TimeScale.steps (d.remaining (min (now + interval) d.expiresAt)) interval <
      TimeScale.steps (d.remaining now) interval := by
  have hcover : d.remaining now ≤ TimeScale.steps (d.remaining now) interval * interval :=
    (TimeScale.steps_le_iff hp _).mp le_rfl
  have hleft : d.remaining now = d.expiresAt - now := by
    rw [remaining_eq_max, max_eq_left (by linarith)]
  rw [hleft] at hcover ⊢
  obtain ⟨n, hn⟩ : ∃ n, TimeScale.steps (d.expiresAt - now) interval = n + 1 := by
    refine Nat.exists_eq_succ_of_ne_zero fun hzero => ?_
    rw [hzero, Nat.cast_zero, zero_mul] at hcover
    linarith
  rw [hn] at hcover ⊢
  rw [Nat.lt_succ_iff, TimeScale.steps_le_iff hp, remaining_eq_max]
  have hnonneg : (0 : ℚ) ≤ n * interval := mul_nonneg n.cast_nonneg hp.le
  refine max_le ?_ hnonneg
  rw [Nat.cast_add, Nat.cast_one, add_mul, one_mul] at hcover
  rcases le_total (now + interval) d.expiresAt with h | h
  · rw [min_eq_left h]
    linarith
  · rw [min_eq_right h, sub_self]
    exact hnonneg

/-- More rounds of waiting than there are intervals left are a whole wait. The induction is on the
rounds: each one that is not the last takes an interval off what is left. -/
theorem waits_waitRounds (hp : 0 < interval) (work : Completion ℚ) (rounds : ℕ) :
    ∀ now : ℚ, TimeScale.steps (d.remaining now) interval < rounds →
      d.Waits work interval now (d.waitRounds work interval rounds now).1
        (d.waitRounds work interval rounds now).2 := by
  induction rounds with
  | zero =>
    intro now hrounds
    exact absurd hrounds (Nat.not_lt_zero _)
  | succ rounds ih =>
    intro now hrounds
    rw [waitRounds]
    rcases lt_or_ge now d.expiresAt with hnow | hnow
    · have hexp := (d.isExpired_eq_false_iff now).mpr hnow
      rw [hexp]
      cases hwait : Clock.wait now work (TimeScale.least interval (d.remaining now)) with
      | mk done later =>
        cases done with
        | true => exact .noticed hexp hwait
        | false =>
          have hlater : later = min (now + interval) d.expiresAt := by
            rw [d.wait_least_remaining hp hnow] at hwait
            cases work <;> simp_all
          refine .again hexp hwait (ih later ?_)
          rw [hlater]
          exact (d.steps_remaining_lt hp hnow).trans_le (Nat.lt_succ_iff.mp hrounds)
    · have hexp := (d.isExpired_eq_true_iff now).mpr hnow
      rw [hexp]
      exact .late hexp

/-- Every wait ends, with the answer and the time that `waitFor` tells. -/
theorem waits_waitFor (hp : 0 < interval) (now : ℚ) (work : Completion ℚ) :
    d.Waits work interval now (d.waitFor now work interval).1 (d.waitFor now work interval).2 :=
  d.waits_waitRounds hp work _ now (Nat.lt_succ_self _)

/-! ## Work that is done from a time on -/

/-- Some number of intervals, at least one, is the least that reaches a time. -/
theorem exists_isLeast_intervals (hp : 0 < interval) (now due : ℚ) :
    ∃ k : ℕ, IsLeast {k : ℕ | 1 ≤ k ∧ due ≤ now + k * interval} k := by
  have hsome : ∃ k : ℕ, 1 ≤ k ∧ due ≤ now + k * interval := by
    refine ⟨roundsUntil now interval due + 1, Nat.le_add_left _ _, ?_⟩
    rw [Nat.cast_add, Nat.cast_one, add_mul, one_mul]
    linarith [le_add_roundsUntil_mul hp now due]
  exact ⟨Nat.find hsome, Nat.find_spec hsome, fun j hj => Nat.find_min' hsome hj⟩

/-- Work that is done from a time on is late if the next round ends with the budget: either it is
noticed then, when no time is left, or the wait goes on for one last look at the budget. -/
theorem waits_due_of_expiresAt_le (hp : 0 < interval) {now : ℚ}
    (hend : d.expiresAt ≤ now + interval) (due : ℚ) :
    d.Waits (.due due) interval now false (max now d.expiresAt) := by
  rcases lt_or_ge now d.expiresAt with hnow | hnow
  · have hexp := (d.isExpired_eq_false_iff now).mpr hnow
    have hlate : d.isExpired d.expiresAt = true := (d.isExpired_eq_true_iff _).mpr le_rfl
    have hwait := d.wait_least_remaining hp hnow (.due due)
    simp only [min_eq_right hend] at hwait
    rw [max_eq_right hnow.le]
    by_cases hdue : due ≤ d.expiresAt
    · rw [decide_eq_true hdue] at hwait
      have hnoticed := Waits.noticed hexp hwait
      rwa [hlate] at hnoticed
    · rw [decide_eq_false hdue] at hwait
      exact .again hexp hwait (.late hlate)
  · rw [max_eq_left hnow]
    exact .late ((d.isExpired_eq_true_iff now).mpr hnow)

/-- Work that is done from a time on is noticed after the least number of intervals that reaches the
time, if that is before the budget runs out; if not, the whole budget is used up. The induction is
on the number: after a round that does not reach the time there is one interval less to go. -/
theorem waits_due (hp : 0 < interval) {due : ℚ} (k : ℕ) :
    ∀ now : ℚ, due ≤ now + (k + 1 : ℕ) * interval →
      (∀ i : ℕ, 1 ≤ i → i < k + 1 → now + i * interval < due) →
      d.Waits (.due due) interval now (now + (k + 1 : ℕ) * interval < d.expiresAt)
        (if now + (k + 1 : ℕ) * interval < d.expiresAt then now + (k + 1 : ℕ) * interval
          else max now d.expiresAt) := by
  induction k with
  | zero =>
    intro now hdue _
    rw [Nat.zero_add, Nat.cast_one, one_mul] at hdue ⊢
    rcases lt_or_ge (now + interval) d.expiresAt with hnext | hend
    · have hnow : now < d.expiresAt := by linarith
      have hwait := d.wait_least_remaining hp hnow (.due due)
      simp only [min_eq_left hnext.le, decide_eq_true hdue] at hwait
      have hnoticed := Waits.noticed ((d.isExpired_eq_false_iff now).mpr hnow) hwait
      rw [(d.isExpired_eq_false_iff _).mpr hnext] at hnoticed
      rw [if_pos hnext, decide_eq_true hnext]
      exact hnoticed
    · rw [if_neg (not_lt.mpr hend), decide_eq_false (not_lt.mpr hend)]
      exact d.waits_due_of_expiresAt_le hp hend due
  | succ k ih =>
    intro now hdue hbefore
    have hsum (n : ℕ) : now + (n + 1 : ℕ) * interval = now + interval + n * interval := by
      rw [Nat.cast_add, Nat.cast_one, add_mul, one_mul, add_assoc, add_comm interval]
    rcases lt_or_ge (now + interval) d.expiresAt with hnext | hend
    · have hnow : now < d.expiresAt := by linarith
      have hnot : ¬ due ≤ now + interval := by
        have hfirst := hbefore 1 le_rfl (by omega)
        rw [Nat.cast_one, one_mul] at hfirst
        exact not_le.mpr hfirst
      have hwait := d.wait_least_remaining hp hnow (.due due)
      simp only [min_eq_left hnext.le, decide_eq_false hnot] at hwait
      have hrest := ih (now + interval) (hsum (k + 1) ▸ hdue) fun i hi hik =>
        hsum i ▸ hbefore (i + 1) (by omega) (by omega)
      rw [← hsum, max_eq_right hnext.le] at hrest
      rw [max_eq_right hnow.le]
      exact .again ((d.isExpired_eq_false_iff now).mpr hnow) hwait hrest
    · have hlate : ¬ now + (k + 1 + 1 : ℕ) * interval < d.expiresAt := by
        have hnonneg : (0 : ℚ) ≤ (k + 1 : ℕ) * interval := mul_nonneg (Nat.cast_nonneg _) hp.le
        rw [hsum (k + 1)]
        linarith
      rw [if_neg hlate, decide_eq_false hlate]
      exact d.waits_due_of_expiresAt_le hp hend due

/-! ## Work of every kind -/

/-- What comes of waiting for work that is done from a time on. -/
theorem waitFor_due (hp : 0 < interval) (now due : ℚ) :
    ∃ k : ℕ, IsLeast {k : ℕ | 1 ≤ k ∧ due ≤ now + k * interval} k ∧
      d.waitFor now (.due due) interval =
        if now + k * interval < d.expiresAt then (true, now + k * interval)
        else (false, max now d.expiresAt) := by
  obtain ⟨k, hk⟩ := exists_isLeast_intervals hp now due
  obtain ⟨⟨hpos, hreached⟩, hleast⟩ := hk
  obtain ⟨j, rfl⟩ : ∃ j, k = j + 1 := ⟨k - 1, by omega⟩
  have hbefore : ∀ i : ℕ, 1 ≤ i → i < j + 1 → now + i * interval < due := by
    intro i hi hij
    refine not_le.mp fun hle => ?_
    exact absurd (hleast ⟨hi, hle⟩) (not_le.mpr hij)
  have hwaits := d.waits_due hp j now hreached hbefore
  obtain ⟨hanswer, hlast⟩ := (d.waits_waitFor hp now (.due due)).unique hwaits
  refine ⟨j + 1, ⟨⟨hpos, hreached⟩, hleast⟩, Prod.ext ?_ ?_⟩
  · rw [hanswer]
    split <;> simp_all
  · rw [hlast]
    split <;> rfl

/-- A wait ends, in one way only. Work that is done already is in time iff some time is left; work
that is done from a time on is in time iff the first interval to reach that time ends before the
budget does; all else is late, and uses up the whole budget. So work that is in time is told of
while time is left, unlike a poll, which accepts a time that is reached just when the budget runs
out. -/
theorem waitFor_lateness (hp : 0 < interval) (now : ℚ) :
    (∀ work inTime last, d.Waits work interval now inTime last ↔
      (inTime, last) = d.waitFor now work interval) ∧
    d.waitFor now .done interval = (decide (now < d.expiresAt), now) ∧
    (∀ due, ∃ k : ℕ, IsLeast {k : ℕ | 1 ≤ k ∧ due ≤ now + k * interval} k ∧
      d.waitFor now (.due due) interval =
        if now + k * interval < d.expiresAt then (true, now + k * interval)
        else (false, max now d.expiresAt)) ∧
    d.waitFor now .never interval = (false, max now d.expiresAt) ∧
    (∀ work last, d.waitFor now work interval = (true, last) → last < d.expiresAt) ∧
    (∀ work last, d.waitFor now work interval = (false, last) → last = max now d.expiresAt) ∧
    (d.poll now (fun t => d.expiresAt ≤ t) interval).held = true := by
  have hdone : d.waitFor now .done interval = (decide (now < d.expiresAt), now) := by
    rw [waitFor_done]
    rcases lt_or_ge now d.expiresAt with h | h
    · rw [(d.isExpired_eq_false_iff now).mpr h, decide_eq_true h]
      rfl
    · rw [(d.isExpired_eq_true_iff now).mpr h, decide_eq_false (not_lt.mpr h)]
      rfl
  refine ⟨?_, hdone, d.waitFor_due hp now, d.waitFor_never hp now, ?_, ?_, ?_⟩
  · intro work inTime last
    constructor
    · intro h
      obtain ⟨rfl, rfl⟩ := h.unique (d.waits_waitFor hp now work)
      rfl
    · intro h
      have hwaits := d.waits_waitFor hp now work
      rwa [← h] at hwaits
  · intro work last h
    have hwaits := d.waits_waitFor hp now work
    rw [h] at hwaits
    exact (d.isExpired_eq_false_iff last).mp hwaits.isExpired_eq_false
  · intro work last h
    cases work with
    | done =>
      rw [hdone] at h
      obtain ⟨hlate, rfl⟩ := Prod.mk.inj h
      exact (max_eq_left (not_lt.mp (of_decide_eq_false hlate))).symm
    | due due =>
      obtain ⟨k, -, hk⟩ := d.waitFor_due hp now due
      rw [hk] at h
      split at h
      · cases h
      · exact (Prod.mk.inj h).2.symm
    | never =>
      rw [d.waitFor_never hp] at h
      exact (Prod.mk.inj h).2.symm
  · rw [d.poll_reached hp le_rfl]

/-- Work that is done an instant before the budget runs out, in the middle of the last interval, and
so is noticed too late. -/
theorem waitFor_lateness_last_interval :
    let d : Deadline ℚ := ⟨0, 3⟩
    (0 : ℚ) < 2 ∧ d.waitFor 0 (.due (5 / 2)) 2 = (false, 3) ∧
      d.waitFor 0 (.due 2) 2 = (true, 2) ∧ (d.poll 0 (fun t => d.expiresAt ≤ t) 2).held = true := by
  intro d
  have hp : (0 : ℚ) < 2 := by norm_num
  obtain ⟨-, -, hdue, -, -, -, hpoll⟩ := d.waitFor_lateness hp 0
  have hexpires : d.expiresAt = 3 := by norm_num [d, expiresAt]
  refine ⟨hp, ?_, ?_, hpoll⟩
  · obtain ⟨k, ⟨⟨-, hk⟩, -⟩, hwait⟩ := hdue (5 / 2)
    have hlate : ¬ (0 : ℚ) + k * 2 < d.expiresAt := by
      have htwo : (1 : ℚ) < k := by linarith
      have hle : (2 : ℚ) ≤ k := by exact_mod_cast htwo
      rw [hexpires]
      linarith
    rw [hwait, if_neg hlate, hexpires]
    norm_num
  · obtain ⟨k, ⟨⟨hpos, -⟩, hleast⟩, hwait⟩ := hdue 2
    have hone : k = 1 := le_antisymm (hleast ⟨le_rfl, by norm_num⟩) hpos
    rw [hwait, hone, hexpires]
    norm_num

end Playground.Deadline
