import Mathlib.Tactic.Linarith
import Playground.Proofs.Decimal.Rounding
import Playground.Proofs.Text.Numeral
import Playground.Service.TimeoutHeader

/-!
# Which timeout headers are accepted

A timeout header is meant to be a whole number of milliseconds. It is read as a decimal, which is
rounded to a double and cut off after the point, so decimals with a fraction or an exponent are
accepted like whole numbers. Whole numbers are what they say as long as a double can tell them
apart.

- `isNear_toFloat`: the double that is read for a decimal stands for it.
- `HeaderReading`: what becomes of a header of every kind.
- `timeoutHeader_reading`: this is what becomes of it.
-/

namespace Playground

open Decimal (IsNear Keeps Near)
open Text (Numeral WholeNumeral plainNumeral)

/-- The double that is read for a decimal stands for it. -/
theorem Text.Numeral.isNear_toFloat (n : Numeral) : IsNear n.value n.toFloat := by
  have hnear := Decimal.isNear_toFloat (Decimal.ofDigits (n.whole ++ n.fraction))
    (n.exponent - n.fraction.length)
  rw [value, toFloat]
  split
  case isTrue =>
    rw [neg_one_mul]
    exact hnear.neg
  case isFalse =>
    rw [one_mul]
    exact hnear

/-- A whole number as a number of milliseconds, if it is in range. -/
def inRange (name : String) (maximum k : ℤ) : Except Refusal ℤ :=
  if 1 ≤ k ∧ k ≤ maximum then .ok k else .error (.headerOutOfRange name maximum)

theorem inRange_eq_ok_iff {name : String} {maximum k j : ℤ} :
    inRange name maximum k = .ok j ↔ j = k ∧ 1 ≤ k ∧ k ≤ maximum := by
  unfold inRange
  split
  case isTrue h =>
    rw [Except.ok.injEq, eq_comm]
    exact (and_iff_left h).symm
  case isFalse h => exact iff_of_false nofun fun hj => h hj.2

theorem milliseconds_eq (name value : String) (maximum : ℤ) :
    milliseconds name value maximum =
      match (Text.readFloat? value.toList).bind Decimal.truncate? with
      | none => .error (.badHeader name value)
      | some k => inRange name maximum k := by
  rw [milliseconds]
  cases (Text.readFloat? value.toList).bind Decimal.truncate? with
  | none => rfl
  | some k =>
    have hrange : (k ≤ 0 ∨ k > maximum) ↔ ¬ (1 ≤ k ∧ k ≤ maximum) := by omega
    simp only [inRange, hrange, ite_not]

/-- What is no decimal is not read. -/
theorem milliseconds_of_not_spells (name : String) {value : String} (maximum : ℤ)
    (h : ∀ n : Numeral, ¬ n.Spells (plainNumeral value.toList)) :
    milliseconds name value maximum = .error (.badHeader name value) := by
  have hnone : (Text.readFloat? value.toList).bind Decimal.truncate? = none := by
    cases hread : Text.readFloat? value.toList with
    | none => rfl
    | some x =>
      obtain ⟨n, hn, -⟩ | hx := Text.spells_of_readFloat? hread
      · exact absurd hn (h n)
      · exact hx
  rw [milliseconds_eq, hnone]

/-- A decimal counts as a whole number near to it, or is too large for a double. -/
theorem milliseconds_of_spells (name : String) {value : String} (maximum : ℤ) {n : Numeral}
    (h : n.Spells (plainNumeral value.toList)) :
    (∃ k : ℤ, Near n.value k ∧ milliseconds name value maximum = inRange name maximum k) ∨
      2 ^ 53 < |n.value| ∧ milliseconds name value maximum = .error (.badHeader name value) := by
  have htruncate := n.isNear_toFloat.truncate?
  rw [milliseconds_eq, Text.readFloat?_of_spells h, Option.bind_some]
  cases hcut : Decimal.truncate? n.toFloat with
  | none =>
    rw [hcut] at htruncate
    exact .inr ⟨htruncate, rfl⟩
  | some k =>
    rw [hcut] at htruncate
    exact .inl ⟨k, htruncate, rfl⟩

/-- What becomes of a timeout header. -/
structure HeaderReading (name value : String) (maximum : ℤ) (reading : Except Refusal ℤ) :
    Prop where
  /-- What is accepted is in range, and there are two refusals. -/
  answer : (∃ k, reading = .ok k ∧ 1 ≤ k ∧ k ≤ maximum) ∨
    reading = .error (.badHeader name value) ∨
    reading = .error (.headerOutOfRange name maximum)
  /-- What is no decimal is not read, even if it is the name of an infinity. -/
  unreadable : (∀ n : Numeral, ¬ n.Spells (plainNumeral value.toList)) →
    reading = .error (.badHeader name value)
  /-- A decimal counts as a whole number that stands for it, unless it is too large for a double. -/
  decimal : ∀ n : Numeral, n.Spells (plainNumeral value.toList) →
    (∃ k : ℤ, Near n.value k ∧ reading = inRange name maximum k) ∨
      2 ^ 53 < |n.value| ∧ reading = .error (.badHeader name value)
  /-- That is the number without its fraction, unless the next whole number is in reach. -/
  cutOff : ∀ n : Numeral, n.Spells (plainNumeral value.toList) → ∀ k : ℤ, 0 ≤ k → k ≤ 2 ^ 53 →
    k ≤ n.value → Decimal.reach n.value < k + 1 → reading = inRange name maximum k
  /-- A whole number that a double tells from its neighbours counts as itself. -/
  whole : ∀ k, WholeNumeral (plainNumeral value.toList) k → |k| ≤ 2 ^ 53 →
    reading = inRange name maximum k
  /-- Where the greatest budget is such a number, no whole number is taken for another one. -/
  faithful : ∀ k, WholeNumeral (plainNumeral value.toList) k → maximum < 2 ^ 53 →
    ∀ j, reading = .ok j ↔ j = k ∧ 1 ≤ k ∧ k ≤ maximum
  /-- A decimal in range is accepted, with a fraction or an exponent or without them. -/
  accepted : ∀ n : Numeral, n.Spells (plainNumeral value.toList) → 1 ≤ n.value →
    n.value ≤ maximum → maximum ≤ 2 ^ 53 → ∃ k, reading = .ok k
  /-- A decimal that is not positive is refused, and so is one beyond the greatest budget. -/
  refused : ∀ n : Numeral, n.Spells (plainNumeral value.toList) →
    n.value ≤ 0 ∨ (maximum + 1 ≤ n.value ∧ maximum < 2 ^ 53) → ∀ k, reading ≠ .ok k

/-- What is near to a number is on the same side as it of the bounds of a range. -/
theorem inRange_ne_ok {name : String} {maximum k : ℤ} {x : ℚ} (hk : Keeps x k)
    (hx : x ≤ 0 ∨ (maximum + 1 ≤ x ∧ maximum < 2 ^ 53)) (j : ℤ) :
    inRange name maximum k ≠ .ok j := by
  intro h
  obtain ⟨-, hpos, hle⟩ := inRange_eq_ok_iff.mp h
  rcases hx with hx | ⟨hx, hmaximum⟩
  · have hzero : (k : ℚ) ≤ (0 : ℤ) := (hk 0 (by decide)).2 (by exact_mod_cast hx)
    have hzero' : k ≤ 0 := by exact_mod_cast hzero
    omega
  · have habs : |maximum + 1| ≤ 2 ^ 53 := abs_le.mpr (by constructor <;> omega)
    have hlarge : ((maximum + 1 : ℤ) : ℚ) ≤ k := (hk _ habs).1 (by exact_mod_cast hx)
    have hlarge' : maximum + 1 ≤ k := by exact_mod_cast hlarge
    omega

theorem inRange_of_keeps {name : String} {maximum k : ℤ} {x : ℚ} (hk : Keeps x k) (hpos : 1 ≤ x)
    (hle : x ≤ maximum) (hmaximum : maximum ≤ 2 ^ 53) : inRange name maximum k = .ok k := by
  have hone : (1 : ℚ) ≤ maximum := hpos.trans hle
  have hone' : 1 ≤ maximum := by exact_mod_cast hone
  have habs : |maximum| ≤ 2 ^ 53 := abs_le.mpr (by constructor <;> omega)
  have hlow : ((1 : ℤ) : ℚ) ≤ k := (hk 1 (by decide)).1 (by exact_mod_cast hpos)
  have hhigh : (k : ℚ) ≤ maximum := (hk maximum habs).2 hle
  exact inRange_eq_ok_iff.mpr ⟨rfl, by exact_mod_cast hlow, by exact_mod_cast hhigh⟩

/-- The greater a number that a double cannot tell from its neighbours, the farther it reaches. -/
theorem abs_le_of_reach_lt {x : ℚ} {k : ℤ} (hk : k ≤ 2 ^ 53) (h : Decimal.reach x < k + 1) :
    |x| ≤ 2 ^ 53 := by
  by_contra hx
  have hlarge : (2 : ℚ) ^ 53 < |x| := not_le.mp hx
  have hrelative : (2 : ℚ) ≤ |x| * 2 ^ (-52 : ℤ) := by
    calc (2 : ℚ) = 2 ^ 53 * 2 ^ (-52 : ℤ) := by norm_num
      _ ≤ |x| * 2 ^ (-52 : ℤ) := mul_le_mul_of_nonneg_right hlarge.le (by positivity)
  have hleast : (0 : ℚ) < 2 ^ (-1074 : ℤ) := by positivity
  have hk' : (k : ℚ) ≤ 2 ^ 53 := by exact_mod_cast hk
  unfold Decimal.reach at h
  linarith

/-- The whole number that stands for a positive number is that number without its fraction, if no
greater one is in reach. -/
theorem eq_of_near {x : ℚ} {j k : ℤ} (hj : Decimal.Near x j) (hk : 0 ≤ k) (hsmall : k ≤ 2 ^ 53)
    (hle : k ≤ x) (hreach : Decimal.reach x < k + 1) : j = k := by
  have hlow : (k : ℚ) ≤ j := (hj.keeps k (abs_le.mpr (by constructor <;> omega))).1 hle
  have hhigh : (j : ℚ) < k + 1 := (le_abs_self _).trans_lt (hj.le.trans_lt hreach)
  have hlow' : k ≤ j := by exact_mod_cast hlow
  have hhigh' : j < k + 1 := by exact_mod_cast hhigh
  omega

theorem milliseconds_reading (name value : String) (maximum : ℤ) :
    HeaderReading name value maximum (milliseconds name value maximum) := by
  have hrefused (n : Numeral) (hn : n.Spells (plainNumeral value.toList))
      (hrange : n.value ≤ 0 ∨ (maximum + 1 ≤ n.value ∧ maximum < 2 ^ 53)) (k : ℤ) :
      milliseconds name value maximum ≠ .ok k := by
    obtain ⟨j, hj, heq⟩ | ⟨-, heq⟩ := milliseconds_of_spells name maximum hn
    · rw [heq]
      exact inRange_ne_ok hj.keeps hrange k
    · rw [heq]
      exact nofun
  have hwhole (k : ℤ) (hk : WholeNumeral (plainNumeral value.toList) k) (hsmall : |k| ≤ 2 ^ 53) :
      milliseconds name value maximum = inRange name maximum k := by
    obtain ⟨n, hn, hvalue⟩ := hk.spells
    obtain ⟨j, hj, heq⟩ | ⟨hlarge, -⟩ := milliseconds_of_spells name maximum hn
    · rw [hvalue] at hj
      obtain rfl : j = k := by exact_mod_cast hj.keeps.eq hsmall
      exact heq
    · rw [hvalue] at hlarge
      exact absurd hsmall (not_le.mpr (by exact_mod_cast hlarge))
  constructor
  case answer =>
    rw [milliseconds_eq]
    cases (Text.readFloat? value.toList).bind Decimal.truncate? with
    | none => exact .inr (.inl rfl)
    | some k =>
      by_cases hk : 1 ≤ k ∧ k ≤ maximum
      · exact .inl ⟨k, if_pos hk, hk⟩
      · exact .inr (.inr (if_neg hk))
  case unreadable => exact milliseconds_of_not_spells name maximum
  case decimal => exact fun n hn => milliseconds_of_spells name maximum hn
  case cutOff =>
    intro n hn k hk hsmall hle hreach
    obtain ⟨j, hj, heq⟩ | ⟨hlarge, -⟩ := milliseconds_of_spells name maximum hn
    · rw [heq, eq_of_near hj hk hsmall hle hreach]
    · exact absurd hlarge (not_lt.mpr (abs_le_of_reach_lt hsmall hreach))
  case whole => exact hwhole
  case faithful =>
    intro k hk hmaximum j
    by_cases hsmall : |k| ≤ 2 ^ 53
    · rw [hwhole k hk hsmall, inRange_eq_ok_iff]
    · obtain ⟨n, hn, hvalue⟩ := hk.spells
      have hfar : k ≤ 0 ∨ maximum + 1 ≤ k := by
        rw [abs_le] at hsmall
        omega
      refine iff_of_false (hrefused n hn ?_ j) (by omega)
      rw [hvalue]
      exact hfar.imp (by exact_mod_cast id) fun h => ⟨by exact_mod_cast h, hmaximum⟩
  case accepted =>
    intro n hn hpos hle hmaximum
    obtain ⟨k, hk, heq⟩ | ⟨hlarge, -⟩ := milliseconds_of_spells name maximum hn
    · exact ⟨k, heq.trans (inRange_of_keeps hk.keeps hpos hle hmaximum)⟩
    · have hmaximum' : (maximum : ℚ) ≤ 2 ^ 53 := by exact_mod_cast hmaximum
      rw [abs_of_nonneg (by linarith)] at hlarge
      linarith
  case refused => exact hrefused

/-- What settings read as a whole number is the same number in a header. -/
theorem milliseconds_of_readInt? (name : String) {value : String} (maximum : ℤ) {k : ℤ}
    (h : Text.readInt? value.toList = some k) (hk : |k| ≤ 2 ^ 53) :
    milliseconds name value maximum = inRange name maximum k :=
  (milliseconds_reading name value maximum).whole k (Text.wholeNumeral_of_readInt? h) hk

/-- A missing header is the default, and any other one is read as it should be. -/
theorem timeoutHeader_reading (headers : List Header) (name : String) (default maximum : ℤ) :
    match headerValue? headers name with
    | none => timeoutHeader headers name default maximum = .ok default
    | some value =>
      HeaderReading name value maximum (timeoutHeader headers name default maximum) := by
  rw [timeoutHeader]
  cases headerValue? headers name with
  | none => rfl
  | some value => exact milliseconds_reading name value maximum

/-- A fraction is cut off: a text that is no whole number is accepted. -/
theorem timeoutHeader_fraction :
    timeoutHeader [⟨"Timeout", "1.5"⟩] "Timeout" 5000 60000 = .ok 1 ∧
      ∀ k, ¬ WholeNumeral (plainNumeral "1.5".toList) k := by
  refine ⟨by decide +kernel, fun k h => ?_⟩
  exact absurd h.not_point (by decide +kernel)

end Playground
