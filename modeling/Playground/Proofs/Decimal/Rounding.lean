import Mathlib
import Playground.Decimal.Binary
import Playground.Decimal.Reading

/-!
# Rounding

How far the double that is read for a decimal, cut off after the point, is from that decimal. The
two are between the same whole numbers, as long as doubles are that close to each other; what is too
large for a double is larger than all of these numbers.

- `Keeps`: two numbers are on the same sides of these whole numbers; `Near`: and the second one is
  hardly any larger.
- `Holds`: a mantissa is a number without its fraction, and knows whether there is one.
- `Rounds`: an unpacked double stands for a number; `rounds_roundWithAccuracy` rounds from what
  `Holds`, and `rounds_mul` and `rounds_div` follow.
- `unpack_pack`, `isCanonical_unpack`, `truncate?_eq`: the bits of a double, and what they mean.
- `IsNear`: a double stands for a number; `isNear_toFloat` for the double that is read for a decimal,
  and `IsNear.truncate?` for what is left of it without its fraction.
-/

namespace Playground.Decimal

open Float.Model
open Float.Model.UnpackedFloat

/-! ## Numbers on the same sides -/

/-- A number is on the same side as another one of each whole number that a double surely tells from
its neighbours, or equal to it. -/
def Keeps (x y : ℚ) : Prop :=
  ∀ k : ℤ, |k| ≤ 2 ^ 53 → ((k : ℚ) ≤ x → (k : ℚ) ≤ y) ∧ (x ≤ k → y ≤ k)

theorem Keeps.trans {x y z : ℚ} (h : Keeps x y) (h' : Keeps y z) : Keeps x z := by
  intro k hk
  exact ⟨fun hx => (h' k hk).1 ((h k hk).1 hx), fun hx => (h' k hk).2 ((h k hk).2 hx)⟩

theorem Keeps.neg {x y : ℚ} (h : Keeps x y) : Keeps (-x) (-y) := by
  intro k hk
  obtain ⟨hbelow, habove⟩ := h (-k) ((abs_neg k).trans_le hk)
  push_cast at hbelow habove
  exact ⟨fun hx => le_neg_of_le_neg (habove (le_neg_of_le_neg hx)),
    fun hx => neg_le_of_neg_le (hbelow (neg_le_of_neg_le hx))⟩

/-- Such a number is the same if it is a whole number. -/
theorem Keeps.eq {n : ℤ} {y : ℚ} (h : Keeps n y) (hn : |n| ≤ 2 ^ 53) : y = n :=
  le_antisymm ((h n hn).2 le_rfl) ((h n hn).1 le_rfl)

/-- A fraction that is cut off after the point stays between the same whole numbers. -/
theorem keeps_div (m : ℕ) {d : ℕ} (hd : 0 < d) : Keeps (m / d) ((m / d : ℕ) : ℚ) := by
  have hd' : (0 : ℚ) < d := by exact_mod_cast hd
  have hcast : ((m / d : ℕ) : ℚ) = ((m / d : ℤ) : ℚ) := rfl
  intro k _
  rw [hcast, le_div_iff₀ hd', div_le_iff₀ hd']
  constructor
  · intro h
    have hk : k * d ≤ m := by exact_mod_cast h
    exact_mod_cast (Int.le_ediv_iff_mul_le (by exact_mod_cast hd)).mpr hk
  · intro h
    have hk : (m : ℤ) ≤ k * d := by exact_mod_cast h
    exact_mod_cast Int.ediv_le_of_le_mul (by exact_mod_cast hd) hk

/-- No double that stands for a number is larger than this: it is next to the number at most, or the
least double of all. -/
def reach (x : ℚ) : ℚ :=
  |x| + |x| * 2 ^ (-52 : ℤ) + 2 ^ (-1074 : ℤ)

theorem abs_le_reach (x : ℚ) : |x| ≤ reach x := by
  have hrelative : 0 ≤ |x| * (2 : ℚ) ^ (-52 : ℤ) := by positivity
  have hleast : (0 : ℚ) < 2 ^ (-1074 : ℤ) := by positivity
  unfold reach
  linarith

/-- A number stands for another one: it keeps its sides, and is hardly any larger. -/
structure Near (x y : ℚ) : Prop where
  keeps : Keeps x y
  le : |y| ≤ reach x

theorem Near.refl (x : ℚ) : Near x x :=
  ⟨fun _ _ => ⟨id, id⟩, abs_le_reach x⟩

theorem Near.neg {x y : ℚ} (h : Near x y) : Near (-x) (-y) := by
  refine ⟨h.keeps.neg, ?_⟩
  rw [reach, abs_neg, abs_neg]
  exact h.le

/-- What is left of a number without its fraction stands for what the number stands for. -/
theorem Near.trans {x y z : ℚ} (h : Near x y) (hz : Keeps y z) (hle : |z| ≤ |y|) : Near x z :=
  ⟨h.keeps.trans hz, hle.trans h.le⟩

/-! ## Mantissas with residual bits -/

/-- A mantissa is a number without its fraction, and the round bit is only set if there is one. -/
structure Holds (em : ExtendedMantissa) (x : ℚ) : Prop where
  le : (em.mantissa : ℚ) ≤ x
  lt : x < em.mantissa + 1
  fraction : em.roundBit = true → (em.mantissa : ℚ) < x

theorem Holds.shiftRightOne {em : ExtendedMantissa} {x : ℚ} (h : Holds em x) :
    Holds em.shiftRightOne (x / 2) := by
  obtain ⟨hle, hlt, -⟩ := h
  have hsplit : ((em.mantissa % 2 : ℕ) : ℚ) + 2 * ((em.mantissa / 2 : ℕ) : ℚ) = em.mantissa := by
    exact_mod_cast Nat.mod_add_div em.mantissa 2
  have hbit : ((em.mantissa % 2 : ℕ) : ℚ) ≤ 1 := by
    exact_mod_cast Nat.lt_succ_iff.mp (Nat.mod_lt em.mantissa two_pos)
  have hbit' : (0 : ℚ) ≤ ((em.mantissa % 2 : ℕ) : ℚ) := Nat.cast_nonneg _
  constructor
  case le =>
    show ((em.mantissa / 2 : ℕ) : ℚ) ≤ x / 2
    linarith
  case lt =>
    show x / 2 < ((em.mantissa / 2 : ℕ) : ℚ) + 1
    linarith
  case fraction =>
    intro hodd
    have hone : em.mantissa % 2 = 1 := by
      have hne : em.mantissa % 2 ≠ 0 := by simpa [ExtendedMantissa.shiftRightOne] using hodd
      omega
    rw [hone] at hsplit
    show ((em.mantissa / 2 : ℕ) : ℚ) < x / 2
    push_cast at hsplit
    linarith

theorem Holds.shiftRight {em : ExtendedMantissa} {x : ℚ} (h : Holds em x) (n : ℕ) :
    Holds (em >>> n) (x / 2 ^ n) := by
  induction n with
  | zero =>
    rw [pow_zero, div_one]
    exact h
  | succ n ih =>
    rw [pow_succ, ← div_div]
    exact ih.shiftRightOne

theorem mantissa_shiftRight (em : ExtendedMantissa) (n : ℕ) :
    (em >>> n).mantissa = em.mantissa / 2 ^ n := by
  induction n with
  | zero => exact (Nat.div_one _).symm
  | succ n ih =>
    rw [pow_succ, ← Nat.div_div_eq_div_mul, ← ih]
    rfl

@[simp] theorem mantissa_ofMantissaAndAccuracy (m : ℕ) (a : Accuracy) :
    (ExtendedMantissa.ofMantissaAndAccuracy m a).mantissa = m := by
  cases a with
  | exact => rfl
  | inexact ordering => cases ordering <;> rfl

theorem holds_exact (m : ℕ) : Holds (.ofMantissaAndAccuracy m .exact) m := by
  constructor
  case le => exact le_rfl
  case lt => exact lt_add_one (m : ℚ)
  case fraction => exact nofun

/-- A quotient, with what its remainder tells of it. -/
theorem holds_quotient (m : ℕ) {d : ℕ} (hd : 0 < d) :
    Holds (.ofMantissaAndAccuracy (m / d) (accuracyOfFraction (m % d) d)) (m / d) := by
  have hd' : (0 : ℚ) < d := by exact_mod_cast hd
  have hsplit : (d : ℚ) * ((m / d : ℕ) : ℚ) + ((m % d : ℕ) : ℚ) = m := by
    exact_mod_cast Nat.div_add_mod m d
  have hrest : ((m % d : ℕ) : ℚ) < d := by exact_mod_cast Nat.mod_lt m hd
  constructor
  case le =>
    rw [mantissa_ofMantissaAndAccuracy, le_div_iff₀ hd', mul_comm]
    exact_mod_cast Nat.mul_div_le m d
  case lt =>
    rw [mantissa_ofMantissaAndAccuracy, div_lt_iff₀ hd']
    linarith
  case fraction =>
    intro hbit
    have hne : m % d ≠ 0 := by
      intro hzero
      rw [hzero] at hbit
      exact absurd hbit nofun
    have hpos : (0 : ℚ) < ((m % d : ℕ) : ℚ) := by exact_mod_cast Nat.pos_of_ne_zero hne
    rw [mantissa_ofMantissaAndAccuracy, lt_div_iff₀ hd']
    linarith

/-- A mantissa is rounded to itself or to the next one, and to the next one only if something was
cut off. -/
theorem Holds.roundedMantissa {em : ExtendedMantissa} {x : ℚ} (h : Holds em x) :
    em.roundedMantissa = em.mantissa ∨
      em.roundedMantissa = em.mantissa + 1 ∧ (em.mantissa : ℚ) < x := by
  obtain ⟨m, round, sticky⟩ := em
  cases round with
  | false =>
    left
    cases sticky <;> rfl
  | true =>
    have hfraction := h.fraction rfl
    cases sticky with
    | true => exact .inr ⟨rfl, hfraction⟩
    | false =>
      show m + m % 2 = m ∨ m + m % 2 = m + 1 ∧ _
      rcases Nat.mod_two_eq_zero_or_one m with heven | hodd
      · exact .inl (by rw [heven]; rfl)
      · exact .inr ⟨by rw [hodd], hfraction⟩

/-- Rounding a mantissa keeps a number on its side of the whole numbers: none of them is strictly
between the mantissa and the next one. -/
theorem keeps_roundedMantissa {em : ExtendedMantissa} {x : ℚ} {t : ℤ} (h : Holds em (x / 2 ^ t))
    (hlong : 2 ^ 52 ≤ em.mantissa ∨ t = -1074) : Keeps x (em.roundedMantissa * 2 ^ t) := by
  have hp : (0 : ℚ) < 2 ^ t := by positivity
  have hround := h.roundedMantissa
  obtain ⟨hle, hlt, -⟩ := h
  rw [le_div_iff₀ hp] at hle
  rw [div_lt_iff₀ hp] at hlt
  intro k hk
  have hstep : (k : ℚ) ≤ em.mantissa * 2 ^ t ∨ (em.mantissa + 1) * 2 ^ t ≤ (k : ℚ) := by
    by_cases hsign : t ≤ 0
    -- a whole number is a multiple of the unit
    · obtain ⟨n, rfl⟩ : ∃ n : ℕ, t = -n := ⟨t.natAbs, by omega⟩
      have hp' : (0 : ℚ) < 2 ^ n := by positivity
      rw [zpow_neg, zpow_natCast, ← div_eq_mul_inv, ← div_eq_mul_inv, le_div_iff₀ hp',
        div_le_iff₀ hp']
      have hwhole : k * 2 ^ n ≤ em.mantissa ∨ (em.mantissa : ℤ) + 1 ≤ k * 2 ^ n := by omega
      exact_mod_cast hwhole
    -- or all mantissas are above those that are told apart
    · have hm : (2 ^ 52 : ℚ) ≤ em.mantissa := by
        exact_mod_cast hlong.resolve_right (by omega)
      have htwo : (2 : ℚ) ^ (1 : ℤ) ≤ 2 ^ t := zpow_le_zpow_right₀ one_le_two (by omega)
      have hk' : (k : ℚ) ≤ 2 ^ 53 := by exact_mod_cast (abs_le.mp hk).2
      left
      calc (k : ℚ) ≤ 2 ^ 52 * 2 ^ (1 : ℤ) := by norm_num at hk' ⊢; exact hk'
        _ ≤ em.mantissa * 2 ^ t := mul_le_mul hm htwo (by positivity) (by positivity)
  constructor
  · intro hx
    have hlow : (k : ℚ) ≤ em.mantissa * 2 ^ t := by
      rcases hstep with h | h
      · exact h
      · exact absurd (hlt.trans_le (h.trans hx)) (lt_irrefl x)
    refine hlow.trans (mul_le_mul_of_nonneg_right ?_ hp.le)
    rcases hround with h | ⟨h, -⟩ <;> rw [h]
    push_cast
    linarith
  · intro hx
    rcases hround with hsame | ⟨hnext, hfraction⟩
    · rw [hsame]
      exact hle.trans hx
    · rw [lt_div_iff₀ hp] at hfraction
      rw [hnext]
      push_cast
      rcases hstep with h | h
      · exact absurd (hfraction.trans_le (hx.trans h)) (lt_irrefl _)
      · exact h

/-- Rounding a mantissa adds the unit at most. That is small in comparison with the number, or it is
the least double. -/
theorem near_roundedMantissa {em : ExtendedMantissa} {x : ℚ} {t : ℤ} (h : Holds em (x / 2 ^ t))
    (hlong : 2 ^ 52 ≤ em.mantissa ∨ t = -1074) : Near x (em.roundedMantissa * 2 ^ t) := by
  refine ⟨keeps_roundedMantissa h hlong, ?_⟩
  have hp : (0 : ℚ) < 2 ^ t := by positivity
  have hx : em.mantissa * 2 ^ t ≤ |x| := ((le_div_iff₀ hp).mp h.le).trans (le_abs_self x)
  have hround : (em.roundedMantissa : ℚ) ≤ em.mantissa + 1 := by
    rcases h.roundedMantissa with h | ⟨h, -⟩ <;> rw [h] <;> push_cast <;> linarith
  have hunit : (2 : ℚ) ^ t ≤ |x| * 2 ^ (-52 : ℤ) + 2 ^ (-1074 : ℤ) := by
    have hrelative : 0 ≤ |x| * (2 : ℚ) ^ (-52 : ℤ) := by positivity
    have hleast : (0 : ℚ) < 2 ^ (-1074 : ℤ) := by positivity
    rcases hlong with hlong | rfl
    · have hmantissa : (2 : ℚ) ^ (52 : ℤ) ≤ em.mantissa := by exact_mod_cast hlong
      have hscaled : (2 : ℚ) ^ (52 : ℤ) * 2 ^ t ≤ |x| :=
        (mul_le_mul_of_nonneg_right hmantissa hp.le).trans hx
      have hback : (2 : ℚ) ^ t = 2 ^ (52 : ℤ) * 2 ^ t * 2 ^ (-52 : ℤ) := by
        rw [← zpow_add₀ two_ne_zero, ← zpow_add₀ two_ne_zero]
        congr 1
        omega
      have hle := mul_le_mul_of_nonneg_right hscaled
        (by positivity : (0 : ℚ) ≤ 2 ^ (-52 : ℤ))
      rw [← hback] at hle
      linarith
    · linarith
  rw [abs_of_nonneg (by positivity), reach]
  calc (em.roundedMantissa : ℚ) * 2 ^ t ≤ (em.mantissa + 1) * 2 ^ t :=
        mul_le_mul_of_nonneg_right hround hp.le
    _ = em.mantissa * 2 ^ t + 2 ^ t := by ring
    _ ≤ |x| + |x| * 2 ^ (-52 : ℤ) + 2 ^ (-1074 : ℤ) := by linarith

/-! ## Rounded numbers -/

/-- The mantissas and exponents of doubles, if there were no greatest exponent. -/
def IsCanonical : UnpackedFloat → Prop
  | .finite _ m e _ => m < 2 ^ 53 ∧ -1074 ≤ e ∧ (2 ^ 52 ≤ m ∨ e = -1074)
  | _ => True

/-- A double stands for a number. -/
def Rounds (x : ℚ) : UnpackedFloat → Prop
  | .notANumber => False
  | .infinity _ => 2 ^ 53 < |x|
  | .zero _ => Near x 0
  | .finite s m e _ => Near x (s.apply m * 2 ^ e)

theorem targetExponent_binary64 (m : ℕ) (e : ℤ) :
    Format.binary64.targetExponent (totalExponent m e) = max (m.log2 + e - 52) (-1074) := by
  simp only [Format.targetExponent, totalExponent, Format.mantissaBits, Format.minExponent]
  omega

/-- Where there are bits enough, a mantissa is shifted to the exponent that it should have. -/
theorem shiftToTargetExponent_eq {m : ℕ} {e : ℤ} (a : Accuracy)
    (hbits : 52 ≤ m.log2 ∨ e ≤ -1074) :
    ∃ n : ℕ, shiftToTargetExponent Format.binary64 m e a =
        (ExtendedMantissa.ofMantissaAndAccuracy m a >>> n, e + n) ∧
      m.log2 ≤ 52 + n ∧ -1074 ≤ e + n ∧ (m.log2 = 52 + n ∨ e + n = -1074) := by
  refine ⟨(max (m.log2 + e - 52) (-1074) - e).toNat, ?_, by omega, by omega, by omega⟩
  rw [shiftToTargetExponent, targetExponent_binary64]
  rfl

/-- A shifted number has at least as many bits as it had and was shifted by. -/
theorem two_pow_le_shiftLeft {m n k : ℕ} (hm : 0 < m) (h : k ≤ m.log2 + n) : 2 ^ k ≤ m <<< n := by
  rw [Nat.shiftLeft_eq]
  calc 2 ^ k ≤ 2 ^ (m.log2 + n) := Nat.pow_le_pow_right two_pos h
    _ = 2 ^ m.log2 * 2 ^ n := pow_add 2 _ n
    _ ≤ m * 2 ^ n := Nat.mul_le_mul_right _ (Nat.log2_self_le hm.ne')

theorem le_log2_shiftLeft {m n k : ℕ} (hm : 0 < m) (h : k ≤ m.log2 + n) : k ≤ (m <<< n).log2 :=
  (Nat.le_log2 (Nat.shiftLeft_pos_iff.mpr hm).ne').mpr (two_pow_le_shiftLeft hm h)

theorem div_two_pow_lt {m n : ℕ} (h : m.log2 ≤ 52 + n) : m / 2 ^ n < 2 ^ 53 := by
  refine Nat.div_lt_of_lt_mul ?_
  calc m < 2 ^ (m.log2 + 1) := Nat.lt_log2_self
    _ ≤ 2 ^ (n + 53) := Nat.pow_le_pow_right two_pos (by omega)
    _ = 2 ^ n * 2 ^ 53 := pow_add 2 n 53

theorem le_div_two_pow {m n : ℕ} (h : m.log2 = 52 + n) : 2 ^ 52 ≤ m / 2 ^ n := by
  have hm : m ≠ 0 := by
    rintro rfl
    simp at h
    omega
  rw [Nat.le_div_iff_mul_le (by positivity), ← pow_add, ← h]
  exact Nat.log2_self_le hm

/-- A rounded mantissa is shifted once more if it has become too long, and loses nothing then. -/
theorem shiftToTargetExponent_exact {r : ℕ} {t : ℤ} (hr : r ≤ 2 ^ 53) (ht : -1074 ≤ t)
    (hlong : 2 ^ 52 ≤ r ∨ t = -1074) :
    ∃ m e, shiftToTargetExponent Format.binary64 r t .exact = (m, e) ∧
      (m.mantissa : ℚ) * 2 ^ e = r * 2 ^ t ∧
      m.mantissa < 2 ^ 53 ∧ -1074 ≤ e ∧ (2 ^ 52 ≤ m.mantissa ∨ e = -1074) := by
  have hlog : 52 ≤ r.log2 ∨ t ≤ -1074 := by
    rcases hlong with h | h
    · exact .inl ((Nat.le_log2 (by omega)).mpr h)
    · exact .inr h.le
  obtain ⟨n, hshift, hbits, hmin, hcase⟩ := shiftToTargetExponent_eq .exact hlog
  refine ⟨_, _, hshift, ?_⟩
  rw [mantissa_shiftRight, mantissa_ofMantissaAndAccuracy]
  have hdvd : r / 2 ^ n * 2 ^ n = r := by
    by_cases hn : n = 0
    · simp [hn]
    · have hr0 : r ≠ 0 := by
        rintro rfl
        simp at hcase
        omega
      have hpow : 2 ^ (52 + n) ≤ r := by
        rw [← hcase.resolve_right (by omega)]
        exact Nat.log2_self_le hr0
      have hn1 : 52 + n ≤ 53 := (Nat.pow_le_pow_iff_right one_lt_two).mp (hpow.trans hr)
      obtain rfl : n = 1 := by omega
      omega
  refine ⟨?_, div_two_pow_lt hbits, hmin, hcase.imp_left le_div_two_pow⟩
  rw [add_comm t, zpow_add₀ two_ne_zero, zpow_natCast, ← mul_assoc]
  exact_mod_cast congrArg (fun k : ℕ => (k : ℚ) * 2 ^ t) hdvd

/-- What is known of a number to the last bit that a double has is enough to round it. -/
theorem rounds_roundWithAccuracy {m : ℕ} {e : ℤ} {a : Accuracy} {x : ℚ}
    (h : Holds (.ofMantissaAndAccuracy m a) (x / 2 ^ e)) (hbits : 52 ≤ m.log2 ∨ e ≤ -1074) :
    IsCanonical (roundWithAccuracy Format.binary64 .positive m e a) ∧
      Rounds x (roundWithAccuracy Format.binary64 .positive m e a) := by
  -- the first shift leaves no more bits than a double has
  obtain ⟨n, hshift, hlog, hmin, hcase⟩ := shiftToTargetExponent_eq a hbits
  have hholds := h.shiftRight n
  rw [div_div, ← zpow_natCast, ← zpow_add₀ two_ne_zero] at hholds
  have hmantissa := mantissa_shiftRight (.ofMantissaAndAccuracy m a) n
  rw [mantissa_ofMantissaAndAccuracy] at hmantissa
  have hlt := div_two_pow_lt hlog
  have hle := hcase.imp_left le_div_two_pow
  rw [← hmantissa] at hlt hle
  generalize ExtendedMantissa.ofMantissaAndAccuracy m a >>> n = em at *
  have hround : em.mantissa ≤ em.roundedMantissa ∧ em.roundedMantissa ≤ em.mantissa + 1 := by
    rcases hholds.roundedMantissa with h | ⟨h, -⟩ <;> omega
  have hnear : Near x (em.roundedMantissa * 2 ^ (e + n)) := near_roundedMantissa hholds hle
  -- the second one is for a carry, which leaves zeros only
  obtain ⟨last, t, hlast, hvalue, hlt', hmin', hle'⟩ :=
    shiftToTargetExponent_exact (r := em.roundedMantissa) (by omega) hmin (hle.imp_left (by omega))
  rw [← hvalue] at hnear
  have hresult : roundWithAccuracy Format.binary64 .positive m e a =
      if h : last.mantissa = 0 then .zero .positive
      else .finite .positive last.mantissa t (Nat.pos_of_ne_zero h) := by
    simp only [roundWithAccuracy, hshift, hlast]
  rw [hresult]
  split
  case isTrue hzero =>
    rw [hzero, Nat.cast_zero, zero_mul] at hnear
    exact ⟨trivial, hnear⟩
  case isFalse => exact ⟨⟨hlt', hmin', hle'⟩, hnear⟩

theorem rounds_mul {m m' : ℕ} {e f : ℤ} (hm : 0 < m) (hm' : 0 < m') (hbits : 52 ≤ m.log2) :
    let product :=
      UnpackedFloat.mul Format.binary64 (.finite .positive m e hm) (.finite .positive m' f hm')
    IsCanonical product ∧ Rounds ((m * 2 ^ e) * (m' * 2 ^ f)) product := by
  intro product
  refine rounds_roundWithAccuracy ?_ (.inl ?_)
  · have hexact : ((m : ℚ) * 2 ^ e) * (m' * 2 ^ f) / 2 ^ (e + f) = ((m * m' : ℕ) : ℚ) := by
      rw [zpow_add₀ two_ne_zero]
      field_simp
      push_cast
      rfl
    rw [hexact]
    exact holds_exact _
  · refine (Nat.le_log2 (by positivity)).mpr ?_
    exact ((Nat.le_log2 hm.ne').mp hbits).trans (Nat.le_mul_of_pos_right m hm')

theorem rounds_div {m d : ℕ} {e f : ℤ} (hm : 0 < m) (hd : 0 < d) :
    let quotient :=
      UnpackedFloat.div Format.binary64 (.finite .positive m e hm) (.finite .positive d f hd)
    IsCanonical quotient ∧ Rounds ((m * 2 ^ e) / (d * 2 ^ f)) quotient := by
  obtain ⟨t, ht, hbits, n, hn, hcore⟩ : ∃ t : ℤ, t ≤ e - f ∧
      (t ≤ -1074 ∨ t + 53 ≤ m.log2 + e - (d.log2 + f)) ∧ ∃ n : ℕ, t + n = e - f ∧
      divCore Format.binary64 m e d f =
        ((m <<< n) / d, t, accuracyOfFraction ((m <<< n) % d) d) := by
    refine ⟨_, min_le_left _ _, ?_, _, ?_, rfl⟩
    · simp only [Format.targetExponent, totalExponent, Format.mantissaBits, Format.minExponent]
      omega
    · omega
  intro quotient
  have hquotient : quotient = roundWithAccuracy Format.binary64 .positive ((m <<< n) / d) t
      (accuracyOfFraction ((m <<< n) % d) d) := by
    show roundWithAccuracy Format.binary64 .positive (divCore Format.binary64 m e d f).1
      (divCore Format.binary64 m e d f).2.1 (divCore Format.binary64 m e d f).2.2 = _
    rw [hcore]
  rw [hquotient]
  refine rounds_roundWithAccuracy ?_ ?_
  · have hexact : ((m : ℚ) * 2 ^ e) / (d * 2 ^ f) / 2 ^ t = ((m <<< n : ℕ) : ℚ) / d := by
      have hpow : (2 : ℚ) ^ e = 2 ^ n * 2 ^ f * 2 ^ t := by
        rw [← zpow_natCast, ← zpow_add₀ two_ne_zero, ← zpow_add₀ two_ne_zero]
        congr 1
        omega
      rw [hpow, Nat.shiftLeft_eq]
      push_cast
      field_simp
    rw [hexact]
    exact holds_quotient _ hd
  · refine hbits.symm.imp_left fun hlong => ?_
    have hlow : 2 ^ 52 ≤ (m <<< n) / d := by
      rw [Nat.le_div_iff_mul_le hd]
      calc 2 ^ 52 * d ≤ 2 ^ 52 * 2 ^ (d.log2 + 1) :=
            Nat.mul_le_mul_left _ (Nat.lt_log2_self).le
        _ = 2 ^ (52 + (d.log2 + 1)) := (pow_add 2 52 _).symm
        _ ≤ m <<< n := two_pow_le_shiftLeft hm (by omega)
    exact (Nat.le_log2 (by omega)).mpr hlow

/-! ## The bits of a double -/

theorem toNat_unpackMantissa (b : BitVec 64) :
    (@unpackMantissa Format.binary64 b).toNat = b.toNat % 2 ^ 52 := by
  simp [unpackMantissa]

theorem toNat_unpackExponent (b : BitVec 64) :
    (@unpackExponent Format.binary64 b).toNat = b.toNat % 2 ^ 63 / 2 ^ 52 := by
  simp [unpackExponent, Nat.shiftRight_eq_div_pow]
  omega

theorem toNat_unpackSign (b : BitVec 64) :
    (@unpackSign Format.binary64 b).toNat = b.toNat / 2 ^ 63 := by
  have hlt := b.isLt
  simp [unpackSign, Nat.shiftRight_eq_div_pow]
  omega

theorem unpackSign_packComponents (s : Sign) (e : BitVec 11) (m : BitVec 52) :
    Sign.ofBitVec (unpackSign (packComponents Format.binary64 s e m)) = s := by
  have hbits : unpackSign (packComponents Format.binary64 s e m) = s.toBitVec := by
    ext i hi
    obtain rfl : i = 0 := by omega
    have happend : (s.toBitVec ++ e ++ m).getLsbD 63 = s.toBitVec.getLsbD 0 := by
      rw [BitVec.getLsbD_append, BitVec.getLsbD_append]
      rfl
    simp [unpackSign, packComponents]
    exact happend
  rw [hbits]
  cases s <;> rfl

theorem toNat_implicit (m : BitVec 52) : (1#1 ++ m).toNat = 2 ^ 52 + m.toNat := by
  rw [BitVec.toNat_append, ← Nat.shiftLeft_add_eq_or_of_lt m.isLt]
  rfl

/-- The sign of a double in its bits. -/
def signOf (bits : ℕ) : Sign :=
  if bits / 2 ^ 63 = 1 then .negative else .positive

theorem ofBitVec_unpackSign (b : BitVec 64) :
    Sign.ofBitVec (@unpackSign Format.binary64 b) = signOf b.toNat := by
  have hlt := b.isLt
  have hzero : @unpackSign Format.binary64 b = 0#1 ↔ b.toNat / 2 ^ 63 = 0 := by
    rw [← BitVec.toNat_inj, toNat_unpackSign]
    rfl
  simp only [Sign.ofBitVec, hzero, signOf]
  split
  case isTrue h => rw [if_neg (by omega)]
  case isFalse h => rw [if_pos (by omega)]

/-- A double is what its parts say. -/
theorem unpack_eq (b : BitVec 64) {s : Sign} {exponent fraction : ℕ}
    (hs : Sign.ofBitVec (@unpackSign Format.binary64 b) = s)
    (hexponent : (@unpackExponent Format.binary64 b).toNat = exponent)
    (hfraction : (@unpackMantissa Format.binary64 b).toNat = fraction) :
    UnpackedFloat.unpack Format.binary64 b =
      if exponent = 2047 then if fraction = 0 then .infinity s else .notANumber
      else if exponent = 0 then
        if h : fraction = 0 then .zero s
        else .finite s fraction (-1074) (Nat.pos_of_ne_zero h)
      else
        .finite s (2 ^ 52 + fraction) (exponent - 1075)
          (Nat.add_pos_left (Nat.two_pow_pos 52) _) := by
  subst hs hexponent hfraction
  have hlast : @unpackExponent Format.binary64 b = -1#11 ↔
      (@unpackExponent Format.binary64 b).toNat = 2047 :=
    BitVec.toNat_inj.symm
  have hfirst : @unpackExponent Format.binary64 b = 0#11 ↔
      (@unpackExponent Format.binary64 b).toNat = 0 :=
    BitVec.toNat_inj.symm
  have hzero : @unpackMantissa Format.binary64 b = 0#52 ↔
      (@unpackMantissa Format.binary64 b).toNat = 0 :=
    BitVec.toNat_inj.symm
  have hbias : (Format.binary64.exponentBias : ℤ) + (52 : ℕ) = 1075 := rfl
  rw [UnpackedFloat.unpack]
  simp only [hlast, hfirst, hzero, toNat_implicit, hbias]
  split_ifs with _ _ hsubnormal
  · rfl
  · rfl
  · rfl
  · simp only [hsubnormal]
    rfl
  · rfl

theorem isCanonical_unpack (x : Float.Model) : IsCanonical x.unpack := by
  have hlt := x.toBits.toBitVec.isLt
  rw [Float.Model.unpack, unpack_eq _ rfl (toNat_unpackExponent _) (toNat_unpackMantissa _)]
  split_ifs
  · trivial
  · trivial
  · trivial
  · exact ⟨by omega, by omega, .inr rfl⟩
  · exact ⟨by omega, by omega, .inl (by omega)⟩

theorem magnitude_eq (x : Float) :
    magnitude x =
      let bits := x.toModel.toBits.toBitVec.toNat
      if bits % 2 ^ 63 / 2 ^ 52 = 2047 then
        if bits % 2 ^ 52 = 0 then .infinite else .notANumber
      else if bits % 2 ^ 63 / 2 ^ 52 = 0 then .finite (bits % 2 ^ 52) (-1074) false
      else
        .finite (2 ^ 52 + bits % 2 ^ 52) ((bits % 2 ^ 63 / 2 ^ 52 : ℕ) - 1075)
          (bits % 2 ^ 52 == 0 && decide (bits % 2 ^ 63 / 2 ^ 52 > 1)) := by
  have hfraction : x.toModel.toBits.toBitVec.toNat % 2 ^ 63 % 2 ^ 52 =
      x.toModel.toBits.toBitVec.toNat % 2 ^ 52 :=
    Nat.mod_mod_of_dvd _ (Nat.pow_dvd_pow 2 (by decide))
  dsimp only
  rw [← hfraction]
  rfl

/-- A double as a whole number, from its parts. -/
theorem truncate?_eq (x : Float) :
    truncate? x =
      match x.toModel.unpack with
      | .finite s m e _ =>
        some (s.apply (if 0 ≤ e then m * 2 ^ e.toNat else m / 2 ^ (-e).toNat : ℕ))
      | .zero _ => some 0
      | _ => none := by
  have hsign (n : ℕ) : (if isNegative x then -(n : ℤ) else n) =
      (signOf x.toModel.toBits.toBitVec.toNat).apply n := by
    have hdecide : isNegative x = decide (x.toModel.toBits.toBitVec.toNat / 2 ^ 63 = 1) := rfl
    rw [hdecide, signOf]
    by_cases h : x.toModel.toBits.toBitVec.toNat / 2 ^ 63 = 1
    · rw [if_pos h, decide_eq_true h]
      rfl
    · rw [if_neg h, decide_eq_false h]
      rfl
  simp only [truncate?, hsign, magnitude_eq]
  rw [Float.Model.unpack, unpack_eq _ (ofBitVec_unpackSign _) (toNat_unpackExponent _)
    (toNat_unpackMantissa _)]
  generalize x.toModel.toBits.toBitVec.toNat = bits
  generalize bits % 2 ^ 63 / 2 ^ 52 = exponent, bits % 2 ^ 52 = fraction, signOf bits = s,
    (-1074 : ℤ) = least
  split_ifs with _ _ _ hzero
  · rfl
  · rfl
  · simp only [hzero, zero_mul, Nat.zero_div, ite_self]
    cases s <;> rfl
  · rfl
  · rfl

/-- Packing what is canonical loses nothing, unless it is too large for a double. -/
theorem unpack_pack {u : UnpackedFloat} (hu : IsCanonical u) :
    (Float.Model.pack u).unpack = u ∨
      ∃ s m e hm, u = .finite s m e hm ∧ 971 < e ∧ (Float.Model.pack u).unpack = .infinity s := by
  cases u with
  | notANumber => exact .inl rfl
  | infinity s => exact .inl (by cases s <;> rfl)
  | zero s => exact .inl (by cases s <;> rfl)
  | finite s m e hm =>
    obtain ⟨hlt, hmin, hlong⟩ := hu
    have hpack : (Float.Model.pack (.finite s m e hm)).unpack =
        UnpackedFloat.unpack Format.binary64
          (if 2 ^ 11 ≤ (e + 1023 + 52).toNat + 1 then packedInfinity Format.binary64 s
            else if m.log2 + 1 = 53 then
              packComponents Format.binary64 s (BitVec.ofNat 11 (e + 1023 + 52).toNat)
                (BitVec.ofNat 52 m)
            else packComponents Format.binary64 s 0#11 (BitVec.ofNat 52 m)) := rfl
    rw [hpack]
    by_cases hlarge : 971 < e
    · right
      rw [if_pos (by omega)]
      refine ⟨s, m, e, hm, rfl, hlarge, ?_⟩
      cases s <;> rfl
    · left
      have hfraction : (BitVec.ofNat 52 m).toNat = m % 2 ^ 52 := BitVec.toNat_ofNat m 52
      rw [if_neg (by omega)]
      -- a mantissa is packed without its leading bit if it has all bits, and as it is if it has not
      by_cases hnormal : 2 ^ 52 ≤ m
      · have hlog : m.log2 + 1 = 53 := by
          rw [(Nat.log2_eq_iff hm.ne').mpr ⟨hnormal, hlt⟩]
        have hexponent : (BitVec.ofNat 11 (e + 1023 + 52).toNat).toNat = (e + 1075).toNat := by
          rw [BitVec.toNat_ofNat]
          omega
        rw [if_pos hlog, unpack_eq _ (unpackSign_packComponents _ _ _)
          ((congrArg BitVec.toNat unpackExponent_packComponents).trans hexponent)
          ((congrArg BitVec.toNat unpackMantissa_packComponents).trans hfraction),
          if_neg (by omega), if_neg (by omega)]
        congr 1 <;> omega
      · obtain rfl := hlong.resolve_left hnormal
        have hlog : ¬ m.log2 + 1 = 53 := by
          have := (Nat.log2_lt hm.ne').mpr (not_le.mp hnormal)
          omega
        have hm' : m % 2 ^ 52 = m := Nat.mod_eq_of_lt (not_le.mp hnormal)
        rw [if_neg hlog, unpack_eq _ (unpackSign_packComponents _ _ _)
          (congrArg BitVec.toNat unpackExponent_packComponents)
          ((congrArg BitVec.toNat unpackMantissa_packComponents).trans (hfraction.trans hm')),
          if_neg (by decide), if_pos (show (0#11).toNat = 0 from rfl), dif_neg hm.ne']

/-! ## Doubles that stand for numbers -/

/-- A double stands for a number, as nearly as a double can. -/
def IsNear (x : ℚ) (y : Float) : Prop :=
  Rounds x y.toModel.unpack

theorem Keeps.lt_abs {x y : ℚ} (h : Keeps x y) (hy : 2 ^ 53 < |y|) : 2 ^ 53 < |x| := by
  by_contra hx
  obtain ⟨hlow, hhigh⟩ := abs_le.mp (not_lt.mp hx)
  have hlow' := (h (-2 ^ 53) (by simp)).1 (by exact_mod_cast hlow)
  have hhigh' := (h (2 ^ 53) (by simp)).2 (by exact_mod_cast hhigh)
  exact hy.not_ge (abs_le.mpr ⟨by exact_mod_cast hlow', by exact_mod_cast hhigh'⟩)

theorem abs_apply (s : Sign) (m : ℕ) : |((s.apply m : ℤ) : ℚ)| = m := by
  cases s <;> simp [Sign.apply]

/-- Packing keeps what a canonical number stands for. -/
theorem isNear_pack {x : ℚ} {u : UnpackedFloat} (hu : IsCanonical u) (h : Rounds x u) :
    IsNear x (.ofModel (.pack u)) := by
  show Rounds x (Float.Model.pack u).unpack
  rcases unpack_pack hu with heq | ⟨s, m, e, hm, rfl, he, heq⟩
  · rw [heq]
    exact h
  · obtain ⟨-, -, hlong⟩ := hu
    have hm' : (1 : ℚ) ≤ m := by exact_mod_cast hm
    have hpow : (2 : ℚ) ^ (53 : ℤ) < 2 ^ e := zpow_lt_zpow_right₀ one_lt_two (by omega)
    rw [heq]
    refine Keeps.lt_abs h.keeps ?_
    rw [abs_mul, abs_apply, abs_of_pos (by positivity)]
    calc (2 : ℚ) ^ 53 = 2 ^ (53 : ℤ) := by norm_num
      _ < 2 ^ e := hpow
      _ ≤ m * 2 ^ e := le_mul_of_one_le_left (by positivity) hm'

theorem apply_neg (s : Sign) (n : ℤ) : (-s).apply n = -s.apply n := by
  cases s with
  | negative => exact (neg_neg n).symm
  | positive => rfl

theorem IsCanonical.neg {u : UnpackedFloat} (h : IsCanonical u) : IsCanonical u.neg := by
  cases u with
  | finite s m e hm => exact h
  | _ => trivial

theorem Rounds.neg {x : ℚ} {u : UnpackedFloat} (h : Rounds x u) : Rounds (-x) u.neg := by
  cases u with
  | notANumber => exact h
  | infinity s =>
    rw [Rounds, ← abs_neg] at h
    exact h
  | zero s =>
    have hneg := Near.neg h
    rw [neg_zero] at hneg
    exact hneg
  | finite s m e hm =>
    have hneg := Near.neg h
    rw [← neg_mul, ← Int.cast_neg, ← apply_neg] at hneg
    exact hneg

theorem IsNear.neg {x : ℚ} {y : Float} (h : IsNear x y) : IsNear (-x) (-y) :=
  isNear_pack (isCanonical_unpack y.toModel).neg (Rounds.neg h)

/-- A mantissa with its exponent, cut off after the point. -/
theorem keeps_cut (m : ℕ) (e : ℤ) :
    let cut : ℕ := if 0 ≤ e then m * 2 ^ e.toNat else m / 2 ^ (-e).toNat
    Keeps (m * 2 ^ e) cut ∧ (cut : ℚ) ≤ m * 2 ^ e := by
  intro cut
  by_cases he : 0 ≤ e
  · lift e to ℕ using he
    have hcut : (cut : ℚ) = m * 2 ^ (e : ℤ) := by simp [cut]
    rw [hcut]
    exact ⟨fun _ _ => ⟨id, id⟩, le_rfl⟩
  · obtain ⟨n, rfl⟩ : ∃ n : ℕ, e = -n := ⟨e.natAbs, by omega⟩
    have hcut : cut = m / 2 ^ n := by simp only [cut, if_neg he, neg_neg, Int.toNat_natCast]
    have hkeeps := keeps_div m (d := 2 ^ n) (by positivity)
    have hle : ((m / 2 ^ n : ℕ) : ℚ) ≤ m / ((2 ^ n : ℕ) : ℚ) := Nat.cast_div_le
    push_cast at hkeeps hle
    rw [hcut, zpow_neg, zpow_natCast, ← div_eq_mul_inv]
    exact ⟨hkeeps, hle⟩

/-- Cutting off what stands after the point keeps a number among the same whole numbers; it fails
only where the number is too large. -/
theorem IsNear.truncate? {x : ℚ} {y : Float} (h : IsNear x y) :
    match truncate? y with
    | some n => Near x n
    | none => 2 ^ 53 < |x| := by
  rw [truncate?_eq]
  unfold IsNear at h
  generalize y.toModel.unpack = u at *
  cases u with
  | notANumber => exact h.elim
  | infinity s => exact h
  | zero s => exact_mod_cast h
  | finite s m e hm =>
    obtain ⟨hkeeps, hle⟩ := keeps_cut m e
    dsimp only at hkeeps hle ⊢
    generalize (if 0 ≤ e then m * 2 ^ e.toNat else m / 2 ^ (-e).toNat : ℕ) = cut at *
    have hle' : |((s.apply cut : ℤ) : ℚ)| ≤ |((s.apply m : ℤ) : ℚ) * 2 ^ e| := by
      rw [abs_mul, abs_apply, abs_apply, abs_of_pos (by positivity : (0 : ℚ) < 2 ^ e)]
      exact hle
    refine Near.trans h ?_ hle'
    cases s with
    | positive => exact_mod_cast hkeeps
    | negative =>
      have hneg := hkeeps.neg
      rw [← neg_mul] at hneg
      exact_mod_cast hneg

/-! ## Reading decimals -/

/-- A double is a whole number, and none of its bits is missing. -/
def IsExactly : UnpackedFloat → ℕ → Prop
  | .finite .positive m e _, n => 52 ≤ m.log2 ∧ m * 2 ^ e.toNat = n * 2 ^ (-e).toNat
  | _, _ => False

instance (u : UnpackedFloat) (n : ℕ) : Decidable (IsExactly u n) :=
  match u with
  | .finite .positive m e _ =>
    inferInstanceAs (Decidable (52 ≤ m.log2 ∧ m * 2 ^ e.toNat = n * 2 ^ (-e).toNat))
  | .finite .negative .. | .notANumber | .infinity _ | .zero _ => inferInstanceAs (Decidable False)

theorem mul_two_zpow_eq_iff {m n : ℕ} {e : ℤ} :
    (m : ℚ) * 2 ^ e = n ↔ m * 2 ^ e.toNat = n * 2 ^ (-e).toNat := by
  have hsplit : (2 : ℚ) ^ e = 2 ^ e.toNat / 2 ^ (-e).toNat := by
    rw [← zpow_natCast, ← zpow_natCast, ← zpow_sub₀ two_ne_zero]
    congr 1
    omega
  rw [hsplit, ← mul_div_assoc, div_eq_iff (by positivity)]
  exact_mod_cast Iff.rfl

theorem IsExactly.exists_eq {u : UnpackedFloat} {n : ℕ} (h : IsExactly u n) :
    ∃ m e hm, u = .finite .positive m e hm ∧ 52 ≤ m.log2 ∧ (m : ℚ) * 2 ^ e = n := by
  cases u with
  | finite s m e hm =>
    cases s with
    | positive => exact ⟨m, e, hm, rfl, h.1, mul_two_zpow_eq_iff.mpr h.2⟩
    | negative => exact h.elim
  | _ => exact h.elim

/-- The powers of ten that are written out. -/
theorem isExactly_powerOfTen :
    ∀ k : Fin 23,
      IsExactly (Float.exactlyRepresentablePowersOfTen[k]).toModel.unpack (10 ^ k.val) := by
  decide +kernel

/-- What is near to a whole number that a double surely tells from its neighbours is that number. -/
theorem IsNear.isExactly {n : ℕ} {y : Float} (h : IsNear n y) (hpos : 0 < n) (hn : n ≤ 2 ^ 53) :
    IsExactly y.toModel.unpack n := by
  have hcanonical := isCanonical_unpack y.toModel
  have hpos' : (0 : ℚ) < n := by exact_mod_cast hpos
  have hn' : |(n : ℤ)| ≤ 2 ^ 53 := by
    rw [abs_of_nonneg (by positivity)]
    exact_mod_cast hn
  unfold IsNear at h
  generalize y.toModel.unpack = u at *
  cases u with
  | notANumber => exact h.elim
  | infinity s =>
    have hlarge : (2 : ℚ) ^ 53 < |(n : ℚ)| := h
    rw [abs_of_pos hpos'] at hlarge
    exact absurd (by exact_mod_cast hn) hlarge.not_ge
  | zero s =>
    have hzero : (0 : ℚ) = (n : ℤ) := Keeps.eq h.keeps hn'
    exact absurd hzero (by exact_mod_cast hpos.ne)
  | finite s m e hm =>
    have hvalue : ((s.apply m : ℤ) : ℚ) * 2 ^ e = (n : ℤ) := Keeps.eq h.keeps hn'
    obtain ⟨hlt, hmin, hlong⟩ := hcanonical
    cases s with
    | negative =>
      have hnegative : ((Sign.negative.apply m : ℤ) : ℚ) * 2 ^ e ≤ 0 :=
        mul_nonpos_of_nonpos_of_nonneg (by simp [Sign.apply]) (by positivity)
      rw [hvalue] at hnegative
      exact absurd hnegative (by exact_mod_cast hpos.not_ge)
    | positive =>
      have hvalue' : (m : ℚ) * 2 ^ e = n := hvalue
      refine ⟨(Nat.le_log2 hm.ne').mpr (hlong.resolve_right ?_), mul_two_zpow_eq_iff.mp hvalue'⟩
      -- the doubles with shorter mantissas are less than one
      rintro rfl
      have hm' : (m : ℚ) ≤ 2 ^ (53 : ℤ) := by exact_mod_cast hlt.le
      have hone : (1 : ℚ) ≤ n := by exact_mod_cast hpos
      have hless : (m : ℚ) * 2 ^ (-1074 : ℤ) < 1 :=
        calc (m : ℚ) * 2 ^ (-1074 : ℤ) ≤ 2 ^ (53 : ℤ) * 2 ^ (-1074 : ℤ) :=
              mul_le_mul_of_nonneg_right hm' (by positivity)
          _ = 2 ^ (-1021 : ℤ) := (zpow_add₀ two_ne_zero _ _).symm
          _ < 1 := zpow_lt_one_of_neg₀ one_lt_two (by decide)
      exact absurd (hvalue' ▸ hless) hone.not_gt

/-- A longer mantissa with a smaller exponent is the same number. -/
theorem shiftLeft_mul_zpow (m k : ℕ) : ((m <<< k : ℕ) : ℚ) * 2 ^ (-(k : ℤ)) = m := by
  rw [Nat.shiftLeft_eq, Nat.cast_mul, Nat.cast_pow, Nat.cast_ofNat, zpow_neg, zpow_natCast,
    ← div_eq_mul_inv, mul_div_cancel_right₀ _ (by positivity)]

/-- A short whole number is a double. -/
theorem isNear_toUInt64 {n : ℕ} (hpos : 0 < n) (hn : n < 2 ^ 53) :
    IsNear n n.toUInt64.toFloat := by
  have hround : n.toUInt64.toFloat = .ofModel (.pack (roundWithAccuracy Format.binary64 .positive
      (n <<< (52 - n.log2)) (-(52 - n.log2 : ℕ)) .exact)) := by
    have hlog : n.log2 < 53 := (Nat.log2_lt hpos.ne').mpr hn
    have hnat : n.toUInt64.toNat = n := Nat.mod_eq_of_lt (by omega)
    have hshift : (-max ((n.log2 : ℤ) + 0 - 52) (-1074)).toNat = 52 - n.log2 := by omega
    rw [UInt64.toFloat, Float.Model.ofUInt64, UnpackedFloat.ofUInt64, hnat, UnpackedFloat.ofNat,
      UnpackedFloat.ofInt, UnpackedFloat.normalize, Int.compare_eq_gt.mpr (by exact_mod_cast hpos)]
    simp only [UnpackedFloat.round, Int.toNat_natCast, targetExponent_binary64, decreaseExponent,
      hshift, zero_sub]
  have hbits : 52 ≤ (n <<< (52 - n.log2)).log2 := le_log2_shiftLeft hpos (by omega)
  have hholds : Holds (.ofMantissaAndAccuracy (n <<< (52 - n.log2)) .exact)
      (n / 2 ^ (-(52 - n.log2 : ℕ) : ℤ)) := by
    have hexact : (n : ℚ) / 2 ^ (-(52 - n.log2 : ℕ) : ℤ) = ((n <<< (52 - n.log2) : ℕ) : ℚ) :=
      (div_eq_iff (by positivity)).mpr (shiftLeft_mul_zpow n _).symm
    rw [hexact]
    exact holds_exact _
  obtain ⟨hcanonical, hrounds⟩ := rounds_roundWithAccuracy hholds (.inl hbits)
  rw [hround]
  exact isNear_pack hcanonical hrounds

/-- A number with so many digits is told from none of its neighbours. -/
theorem lt_abs_of_ten_pow_le {x : ℚ} (h : 10 ^ (16 : ℤ) ≤ x) : 2 ^ 53 < |x| := by
  have hpow : (2 : ℚ) ^ 53 < 10 ^ (16 : ℤ) := by norm_num
  exact hpow.trans_le (h.trans (le_abs_self x))

theorem near_zero {x : ℚ} (hpos : 0 < x) (hlt : x < 1) : Near x 0 := by
  refine ⟨fun k _ => ⟨fun hk => ?_, fun hk => hpos.le.trans hk⟩, ?_⟩
  · have hk' : k < 1 := by exact_mod_cast hk.trans_lt hlt
    exact_mod_cast Int.lt_add_one_iff.mp hk'
  · rw [abs_zero]
    exact (abs_nonneg x).trans (abs_le_reach x)

/-- Scaling a number by a power of ten where that takes more than one rounding. -/
theorem rounds_ofScientific {m : ℕ} (hm : 0 < m) (e : ℤ) :
    IsCanonical (UnpackedFloat.ofScientific Format.binary64 m e) ∧
      Rounds (m * 10 ^ e) (UnpackedFloat.ofScientific Format.binary64 m e) := by
  have hm' : (1 : ℚ) ≤ m := by exact_mod_cast hm
  rw [UnpackedFloat.ofScientific, dif_neg hm.ne']
  split_ifs with hlarge hsmall hsign
  · refine ⟨trivial, lt_abs_of_ten_pow_le ?_⟩
    have hlarge' : 16 ≤ e := by
      have hbits : (2 : ℤ) ^ Format.binary64.exponentBits = 2048 := rfl
      omega
    calc (10 : ℚ) ^ (16 : ℤ) ≤ 10 ^ e := zpow_le_zpow_right₀ (by norm_num) hlarge'
      _ ≤ m * 10 ^ e := le_mul_of_one_le_left (by positivity) hm'
  · refine ⟨trivial, near_zero (by positivity) ?_⟩
    have hlog : (m : ℚ) < 10 ^ (m.log2 + 1 : ℕ) := by
      have hlog2 : (m : ℚ) < 2 ^ (m.log2 + 1) := by exact_mod_cast Nat.lt_log2_self
      exact hlog2.trans_le (pow_le_pow_left₀ (by norm_num) (by norm_num) _)
    calc (m : ℚ) * 10 ^ e < 10 ^ (m.log2 + 1 : ℕ) * 10 ^ e :=
          mul_lt_mul_of_pos_right hlog (by positivity)
      _ = 10 ^ (((m.log2 + 1 : ℕ) : ℤ) + e) := by
          rw [← zpow_natCast, ← zpow_add₀ (by norm_num)]
      _ ≤ 10 ^ (0 : ℤ) := by
          refine zpow_le_zpow_right₀ (by norm_num) ?_
          have hbits : (2 : ℤ) ^ Format.binary64.exponentBits = 2048 := rfl
          omega
      _ = 1 := zpow_zero 10
  · have hshift : (m <<< 53 : ℕ) * (2 : ℚ) ^ (-53 : ℤ) * ((10 ^ e.toNat : ℕ) * 2 ^ (0 : ℤ)) =
        m * 10 ^ e := by
      lift e to ℕ using hsign
      have hcancel : ((m <<< 53 : ℕ) : ℚ) * 2 ^ (-53 : ℤ) = m := shiftLeft_mul_zpow m 53
      rw [hcancel, Int.toNat_natCast, zpow_natCast, zpow_zero, mul_one, Nat.cast_pow,
        Nat.cast_ofNat]
    have hbits : 52 ≤ (m <<< 53).log2 := le_log2_shiftLeft hm (by omega)
    have hproduct := rounds_mul (e := -53) (f := 0) (Nat.shiftLeft_pos_iff.mpr hm)
      (Nat.pow_pos (n := e.toNat) (by decide : 0 < 10)) hbits
    rw [hshift] at hproduct
    exact hproduct
  · have hpow : (m : ℚ) * 2 ^ (0 : ℤ) / ((10 ^ (-e).toNat : ℕ) * 2 ^ (0 : ℤ)) = m * 10 ^ e := by
      obtain ⟨k, rfl⟩ : ∃ k : ℕ, e = -k := ⟨e.natAbs, by omega⟩
      rw [neg_neg, Int.toNat_natCast, zpow_zero, mul_one, mul_one, zpow_neg, zpow_natCast]
      push_cast
      rfl
    have hquotient := rounds_div (e := 0) (f := 0) hm
      (Nat.pow_pos (n := (-e).toNat) (by decide : 0 < 10))
    rw [hpow] at hquotient
    exact hquotient

/-- Scaling a number by a power of ten, up or down. -/
theorem isNear_ofScientific {m : ℕ} (hm : 0 < m) (s : Bool) (e : ℕ) :
    IsNear (m * 10 ^ (if s then -(e : ℤ) else e)) (Float.ofScientific m s e) := by
  rw [Float.ofScientific]
  by_cases h : m < 2 ^ 53 ∧ e ≤ 22
  · rw [dif_pos h]
    have hexact := (isNear_toUInt64 hm h.1).isExactly hm h.1.le
    obtain ⟨k, f, hk, hunpack, hbits, hvalue⟩ := hexact.exists_eq
    obtain ⟨k', f', hk', hunpack', -, hvalue'⟩ := (isExactly_powerOfTen ⟨e, by omega⟩).exists_eq
    push_cast at hvalue'
    cases s with
    | true =>
      have hdiv := rounds_div (e := f) (f := f') hk hk'
      rw [hvalue, hvalue', ← hunpack, ← hunpack'] at hdiv
      show IsNear (m * 10 ^ (-(e : ℤ))) _
      rw [zpow_neg, zpow_natCast, ← div_eq_mul_inv]
      exact isNear_pack hdiv.1 hdiv.2
    | false =>
      have hmul := rounds_mul (e := f) (f := f') hk hk' hbits
      rw [hvalue, hvalue', ← hunpack, ← hunpack'] at hmul
      show IsNear (m * 10 ^ (e : ℤ)) _
      rw [zpow_natCast]
      exact isNear_pack hmul.1 hmul.2
  · rw [dif_neg h]
    have hexponent : (if s then Int.negOfNat e else Int.ofNat e) =
        if s then -(e : ℤ) else (e : ℤ) := by
      cases s with
      | true => exact Int.negOfNat_eq
      | false => rfl
    simp only [hexponent]
    generalize (if s then -(e : ℤ) else (e : ℤ)) = e
    obtain ⟨hcanonical, hrounds⟩ := rounds_ofScientific hm e
    exact isNear_pack hcanonical hrounds

theorem infinity_unpack : (1.0 / 0.0 : Float).toModel.unpack = .infinity .positive := by
  rfl

theorem zero_unpack : (0.0 : Float).toModel.unpack = .zero .positive := by
  rfl

/-- A number lies between powers of ten by the count of its digits. -/
theorem digitCount_bounds {m : ℕ} (hm : 0 < m) :
    (10 : ℚ) ^ ((digitCount m : ℤ) - 1) ≤ m ∧ (m : ℚ) < 10 ^ (digitCount m : ℤ) := by
  obtain ⟨n, hn⟩ : ∃ n, digitCount m = n + 1 :=
    Nat.exists_eq_succ_of_ne_zero (Nat.length_toDigits_pos (b := 10) (n := m)).ne'
  have hupper : m < 10 ^ (n + 1) :=
    (Nat.length_toDigits_le_iff (by decide) n.succ_pos).mp hn.le
  have hlower : 10 ^ n ≤ m := by
    rcases n.eq_zero_or_pos with rfl | hpos
    · exact hm
    · refine not_lt.mp fun hlt => ?_
      have hle := (Nat.length_toDigits_le_iff (by decide) hpos).mpr hlt
      exact absurd (hn.symm.trans_le hle) (by omega)
  rw [hn]
  constructor
  · rw [Nat.cast_succ, add_sub_cancel_right, zpow_natCast]
    exact_mod_cast hlower
  · rw [zpow_natCast]
    exact_mod_cast hupper

/-- A decimal that is read is near to the number that it stands for. -/
theorem isNear_toFloat (m : ℕ) (e : ℤ) : IsNear (m * 10 ^ e) (toFloat m e) := by
  rcases m.eq_zero_or_pos with rfl | hm
  · rw [toFloat, if_pos rfl, Nat.cast_zero, zero_mul, IsNear, zero_unpack]
    exact .refl 0
  · obtain ⟨hlower, hupper⟩ := digitCount_bounds hm
    have hten : (0 : ℚ) < 10 ^ e := by positivity
    rw [toFloat, if_neg hm.ne']
    dsimp only
    split_ifs with hlarge hsmall hsign
    · rw [IsNear, infinity_unpack]
      refine lt_abs_of_ten_pow_le ?_
      calc (10 : ℚ) ^ (16 : ℤ) ≤ 10 ^ ((digitCount m - 1 : ℤ) + e) :=
            zpow_le_zpow_right₀ (by norm_num) (by omega)
        _ = 10 ^ (digitCount m - 1 : ℤ) * 10 ^ e := zpow_add₀ (by norm_num) _ _
        _ ≤ m * 10 ^ e := mul_le_mul_of_nonneg_right hlower hten.le
    · rw [IsNear, zero_unpack]
      refine near_zero (by positivity) ?_
      calc (m : ℚ) * 10 ^ e < 10 ^ (digitCount m : ℤ) * 10 ^ e :=
            mul_lt_mul_of_pos_right hupper hten
        _ = 10 ^ (digitCount m + e : ℤ) := (zpow_add₀ (by norm_num) _ _).symm
        _ ≤ 10 ^ (0 : ℤ) := zpow_le_zpow_right₀ (by norm_num) (by omega)
        _ = 1 := zpow_zero 10
    · lift e to ℕ using hsign
      have hnear := isNear_ofScientific (m := m * 10 ^ e) (by positivity) false 0
      push_cast at hnear
      simpa using hnear
    · have hnear := isNear_ofScientific hm true (-e).toNat
      have he : -((-e).toNat : ℤ) = e := by omega
      rw [if_pos rfl, he] at hnear
      exact hnear

end Playground.Decimal
