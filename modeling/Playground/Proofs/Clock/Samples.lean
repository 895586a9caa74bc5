import Playground.Proofs.Clock.Waiting

/-!
# Samples

Which instants a poll looks at, all of them, and where it ends. A poll is a loop without a bound on
its rounds; that it ends is part of what is shown here, for a budget of any size, zero, negative or
spent before the poll begins.

- `Polls`: a whole poll, look by look. It says nothing about how many rounds there are.
- `Polls.unique`: a poll has one course at most.
- `exists_last`: some instant is the last one to be looked at.
- `polls_instants`: the course of a poll is its instants up to that one.
- `Samples` and `poll_samples`: what follows for the answer, the number of looks and the clock.
-/

namespace Playground.Deadline

section

variable {τ : Type} [TimeScale τ]

/-- A whole poll: the time at which it begins, the times at which it looks, its answer and the time
at which it ends. It ends where its condition holds, or else where no time is left; or else it goes
on after an interval, or after what is left of the budget if that is less. -/
inductive Polls (d : Deadline τ) (condition : τ → Bool) (interval : τ) :
    τ → List τ → Bool → τ → Prop
  | held {now : τ} : condition now = true → Polls d condition interval now [now] true now
  | missed {now : τ} : condition now = false → d.isExpired now = true →
      Polls d condition interval now [now] false now
  | again {now : τ} {looks : List τ} {answer : Bool} {last : τ} :
      condition now = false → d.isExpired now = false →
      Polls d condition interval (Clock.sleep now (TimeScale.least interval (d.remaining now)))
        looks answer last →
      Polls d condition interval now (now :: looks) answer last

namespace Polls

variable {d : Deadline τ} {condition : τ → Bool} {interval now : τ}

/-- What a poll does at a time is settled by the condition and by what is left then. -/
theorem unique {looks looks' : List τ} {answer answer' : Bool} {last last' : τ}
    (h : d.Polls condition interval now looks answer last)
    (h' : d.Polls condition interval now looks' answer' last') :
    looks = looks' ∧ answer = answer' ∧ last = last' := by
  induction h generalizing looks' answer' last' with
  | held hc =>
    cases h' with
    | held _ => exact ⟨rfl, rfl, rfl⟩
    | missed hc' _ => simp [hc] at hc'
    | again hc' _ _ => simp [hc] at hc'
  | missed hc hexp =>
    cases h' with
    | held hc' => simp [hc] at hc'
    | missed _ _ => exact ⟨rfl, rfl, rfl⟩
    | again _ hexp' _ => simp [hexp] at hexp'
  | again hc hexp _ ih =>
    cases h' with
    | held hc' => simp [hc] at hc'
    | missed _ hexp' => simp [hexp] at hexp'
    | again _ _ hrest =>
      obtain ⟨rfl, rfl, rfl⟩ := ih hrest
      exact ⟨rfl, rfl, rfl⟩

/-- A poll takes as many rounds as it looks; more rounds than that make no difference. -/
theorem pollRounds_eq {looks : List τ} {answer : Bool} {last : τ}
    (h : d.Polls condition interval now looks answer last) (before extra : ℕ) :
    d.pollRounds condition interval (looks.length + extra) before now =
      ⟨answer, before + looks.length, last⟩ := by
  induction h generalizing before with
  | held hc => simp [Nat.add_comm 1 extra, pollRounds, hc]
  | missed hc hexp => simp [Nat.add_comm 1 extra, pollRounds, hc, hexp]
  | again hc hexp _ ih =>
    rw [List.length_cons, Nat.add_right_comm, pollRounds]
    simp only [hc, hexp, Bool.false_eq_true, if_false]
    rw [ih (before + 1), Nat.add_assoc, Nat.add_comm 1]

end Polls

end

variable (d : Deadline ℚ) (condition : ℚ → Bool) {interval : ℚ}

/-! ## The course of a poll -/

/-- Some instant is the first at which the condition holds or no time is left: the budget runs out
after finitely many intervals, if it has not run out already. -/
theorem exists_last (hp : 0 < interval) (now : ℚ) :
    ∃ k : ℕ, (∀ i < k, condition (d.instant now interval i) = false ∧
        d.instant now interval i < d.expiresAt) ∧
      (condition (d.instant now interval k) = true ∨
        d.expiresAt ≤ d.instant now interval k) := by
  let ends (k : ℕ) : Prop := condition (d.instant now interval k) = true ∨
    d.expiresAt ≤ d.instant now interval k
  have hsome : ∃ k, ends k := by
    refine ⟨d.rounds now interval, .inr ?_⟩
    rw [d.instant_rounds hp]
    exact le_max_right _ _
  refine ⟨Nat.find hsome, fun i hi => ?_, Nat.find_spec hsome⟩
  have hnot : ¬ ends i := Nat.find_min hsome hi
  simpa [ends] using hnot

/-- The course of a poll is its instants up to the first at which it can end. The induction is on
their number: what is left after the first look is the same poll one instant later. -/
theorem polls_instants (hp : 0 < interval) (k : ℕ) :
    ∀ now : ℚ,
      (∀ i < k, condition (d.instant now interval i) = false ∧
        d.instant now interval i < d.expiresAt) →
      (condition (d.instant now interval k) = true ∨
        d.expiresAt ≤ d.instant now interval k) →
      d.Polls condition interval now ((List.range (k + 1)).map (d.instant now interval))
        (condition (d.instant now interval k)) (d.instant now interval k) := by
  induction k with
  | zero =>
    intro now _ hend
    have hlooks : (List.range (0 + 1)).map (d.instant now interval) = [now] := by simp
    rw [instant_zero] at hend ⊢
    rw [hlooks]
    cases hc : condition now with
    | true => exact .held hc
    | false =>
      have hexp : d.expiresAt ≤ now := hend.resolve_left (by simp [hc])
      exact .missed hc ((d.isExpired_eq_true_iff now).mpr hexp)
  | succ k ih =>
    intro now hbefore hend
    have hfirst := hbefore 0 k.succ_pos
    rw [instant_zero] at hfirst
    obtain ⟨hc, hnow⟩ := hfirst
    have hnext : ∀ i, d.instant now interval (i + 1) =
        d.instant (min (now + interval) d.expiresAt) interval i := d.instant_succ hp hnow
    have hrest := ih (min (now + interval) d.expiresAt)
      (fun i hi => hnext i ▸ hbefore (i + 1) (Nat.succ_lt_succ hi)) (hnext k ▸ hend)
    have hlooks : (List.range (k + 1 + 1)).map (d.instant now interval) =
        now :: (List.range (k + 1)).map
          (d.instant (min (now + interval) d.expiresAt) interval) := by
      rw [List.range_succ_eq_map, List.map_cons, List.map_map, instant_zero]
      exact congrArg (now :: ·) (List.map_congr_left fun i _ => hnext i)
    rw [hlooks, hnext k]
    refine .again hc ((d.isExpired_eq_false_iff now).mpr hnow) ?_
    rw [d.sleep_least_remaining hp hnow]
    exact hrest

/-! ## The answer of a poll -/

/-- What a poll comes to that begins at a time and looks once more than `k` times. -/
structure Samples (interval now : ℚ) (k : ℕ) : Prop where
  /-- The first look is at once. -/
  first : d.instant now interval 0 = now
  /-- The others are an interval apart, none of them after the end of the budget. -/
  later : ∀ i, 0 < i → i ≤ k → d.instant now interval i = min (now + i * interval) d.expiresAt
  /-- At all looks but the last, the condition does not hold and some time is left. -/
  goesOn : ∀ i < k, condition (d.instant now interval i) = false ∧
    d.instant now interval i < d.expiresAt
  /-- At the last look, the condition holds or no time is left. -/
  ends : condition (d.instant now interval k) = true ∨ d.expiresAt ≤ d.instant now interval k
  /-- These are all the looks there are, and the poll ends with the last one of them. -/
  course : ∀ looks answer last, d.Polls condition interval now looks answer last ↔
    looks = (List.range (k + 1)).map (d.instant now interval) ∧
      answer = (d.poll now condition interval).held ∧
      last = (d.poll now condition interval).now
  /-- It takes a round for each look, and would take no more if it were given more. -/
  rounds : ∀ extra, d.pollRounds condition interval (k + 1 + extra) 0 now =
    d.poll now condition interval
  looks : (d.poll now condition interval).looks = k + 1
  stops : (d.poll now condition interval).now = d.instant now interval k
  /-- The answer is whether the condition held at one of them. -/
  held : (d.poll now condition interval).held = true ↔
    ∃ i ≤ k, condition (d.instant now interval i) = true

/-- A poll ends, and looks at its instants up to the first at which its condition holds or no time
is left. So it looks at least once, the clock never passes the end of the budget unless it had
before, and a condition that begins to hold just then is accepted. -/
theorem poll_samples (hp : 0 < interval) (now : ℚ) :
    (∃ k, d.Samples condition interval now k) ∧
      0 < (d.poll now condition interval).looks ∧
      now ≤ (d.poll now condition interval).now ∧
      (d.poll now condition interval).now ≤ max now d.expiresAt ∧
      (now ≤ d.expiresAt → (∀ t, now ≤ t → t < d.expiresAt → condition t = false) →
        condition d.expiresAt = true →
        (d.poll now condition interval).held = true ∧
          (d.poll now condition interval).now = d.expiresAt) := by
  obtain ⟨k, hgoes, hends⟩ := d.exists_last condition hp now
  have hpoll := d.poll_eq condition hp hgoes hends
  have hcourse := d.polls_instants condition hp k now hgoes hends
  have hle : now ≤ d.instant now interval k := by
    have hk : (0 : ℚ) ≤ k * interval := mul_nonneg k.cast_nonneg hp.le
    exact le_min (by linarith) (le_max_left _ _)
  refine ⟨⟨k, ?_⟩, ?_, ?_, ?_, ?_⟩
  · constructor
    case first => exact d.instant_zero now
    case later =>
      intro i hi hik
      -- there is a later look only if some time is left at the first one
      have hnow : now < d.expiresAt := by
        have hzero := (hgoes 0 (hi.trans_le hik)).2
        rwa [instant_zero] at hzero
      unfold instant
      rw [max_eq_right hnow.le]
    case goesOn => exact hgoes
    case ends => exact hends
    case course =>
      intro looks answer last
      rw [hpoll]
      constructor
      · intro h
        exact h.unique hcourse
      · rintro ⟨rfl, rfl, rfl⟩
        exact hcourse
    case rounds =>
      intro extra
      have hrounds := hcourse.pollRounds_eq 0 extra
      rw [List.length_map, List.length_range, Nat.zero_add] at hrounds
      rw [hrounds, hpoll]
    case looks => rw [hpoll]
    case stops => rw [hpoll]
    case held =>
      rw [hpoll]
      constructor
      · intro h
        exact ⟨k, le_rfl, h⟩
      · rintro ⟨i, hik, hi⟩
        rcases hik.lt_or_eq with hlt | rfl
        · rw [(hgoes i hlt).1] at hi
          cases hi
        · exact hi
  · rw [hpoll]
    exact k.succ_pos
  · rw [hpoll]
    exact hle
  · rw [hpoll]
    exact min_le_right _ _
  · intro hnow hnever hE
    have hlast : d.instant now interval k = d.expiresAt := by
      refine le_antisymm ?_ (not_lt.mp fun hlt => ?_)
      · exact (min_le_right _ _).trans_eq (max_eq_right hnow)
      · -- before the end of the budget neither reason to end is given
        rcases hends with hc | hexp
        · rw [hnever _ hle hlt] at hc
          cases hc
        · exact absurd hexp (not_le.mpr hlt)
    rw [hpoll, hlast]
    exact ⟨hE, rfl⟩

/-- A condition that begins to hold when the budget runs out, half an interval after the look before
the last. -/
theorem poll_samples_at_the_end :
    let d : Deadline ℚ := ⟨0, 5 / 2⟩
    let due (t : ℚ) : Bool := 5 / 2 ≤ t
    (0 : ℚ) < 1 ∧ (∃ k, d.Samples due 1 0 k) ∧ d.poll 0 due 1 = ⟨true, 4, 5 / 2⟩ := by
  intro d due
  have hp : (0 : ℚ) < 1 := by norm_num
  obtain ⟨hsamples, -, -, -, hend⟩ := d.poll_samples due hp 0
  have hexpires : d.expiresAt = 5 / 2 := by norm_num [d, expiresAt]
  have hbefore : ∀ t : ℚ, 0 ≤ t → t < d.expiresAt → due t = false := by
    intro t _ ht
    rw [hexpires] at ht
    simpa [due] using ht
  obtain ⟨hheld, hnow⟩ := hend (by norm_num [hexpires]) hbefore (by simp [due, hexpires])
  have hlooks : (d.poll 0 due 1).looks = 4 := by decide +kernel
  refine ⟨hp, hsamples, ?_⟩
  rw [← hexpires, ← hheld, ← hnow, ← hlooks]

end Playground.Deadline
