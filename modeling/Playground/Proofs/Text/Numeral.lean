import Mathlib.Algebra.Order.Ring.Rat
import Mathlib.Tactic.Ring
import Playground.Decimal.Binary
import Playground.Text.Number

/-!
# What numerals say

Whole numbers and decimals as they are written: a sign, digits in groups, a point, an exponent.
Reading a text finds the one numeral that it is, if it is one.

- `Grouped`: digits with single underscores between them; `digitRun` takes the longest such run.
- `Numeral` and `Numeral.Spells`: a decimal by its parts, and the texts that are written so.
- `readFloat?_of_spells` and `spells_of_readFloat?`: what is read is what is written.
-/

namespace Playground.Text

/-! ## Groups of digits -/

/-- Digits with single underscores between them, and the digits alone. -/
inductive Grouped : List Char → List Char → Prop
  | digit {c : Char} : c.isDigit = true → Grouped [c] [c]
  | next {c : Char} {text digits : List Char} :
      c.isDigit = true → Grouped text digits → Grouped (c :: text) (c :: digits)
  | group {c : Char} {text digits : List Char} :
      c.isDigit = true → Grouped text digits → Grouped (c :: '_' :: text) (c :: digits)

namespace Grouped

variable {text digits : List Char}

theorem head (h : Grouped text digits) : ∃ c rest, text = c :: rest ∧ c.isDigit = true := by
  cases h with
  | digit hc | next hc _ | group hc _ => exact ⟨_, _, rfl, hc⟩

theorem ne_nil (h : Grouped text digits) : digits ≠ [] := by
  cases h <;> exact List.cons_ne_nil _ _

end Grouped

/-- No digit stands at the beginning of a text. -/
def NoDigit (text : List Char) : Prop :=
  ∀ c rest, text = c :: rest → c.isDigit = false

/-- A run of digits does not go on with a text. -/
def EndsRun (text : List Char) : Prop :=
  NoDigit text ∧ ∀ rest, text = '_' :: rest → NoDigit rest

theorem digitRun_of_noDigit {text : List Char} (h : NoDigit text) : digitRun text = ([], text) := by
  fun_cases digitRun text with
  | case1 c d rest hboth => simp [h c _ rfl] at hboth
  | case2 c d rest hboth hc => simp [h c _ rfl] at hc
  | case3 => rfl
  | case4 c rest hshape hc => simp [h c _ rfl] at hc
  | case5 => rfl
  | case6 => rfl

theorem noDigit_underscore (text : List Char) : NoDigit ('_' :: text) := by
  rintro c rest ⟨⟩
  rfl

/-- A digit, and what follows it. -/
theorem digitRun_next {c : Char} {rest : List Char} (hc : c.isDigit = true)
    (hrest : ∀ r, rest = '_' :: r → NoDigit r) :
    digitRun (c :: rest) = (c :: (digitRun rest).1, (digitRun rest).2) := by
  cases rest with
  | nil => simp [digitRun, hc]
  | cons a rest =>
    by_cases ha : a = '_'
    · subst ha
      have hnot := hrest rest rfl
      rw [digitRun_of_noDigit (noDigit_underscore rest)]
      cases rest with
      | nil => simp [digitRun, hc]
      | cons d rest => simp [digitRun, hc, hnot d rest rfl]
    · simp [digitRun, hc, ha]

theorem digitRun_append {run digits rest : List Char} (h : Grouped run digits)
    (hrest : EndsRun rest) : digitRun (run ++ rest) = (digits, rest) := by
  induction h with
  | digit hc =>
    rw [List.singleton_append, digitRun_next hc hrest.2, digitRun_of_noDigit hrest.1]
  | next hc hrun ih =>
    obtain ⟨d, r, rfl, hd⟩ := hrun.head
    rw [List.cons_append, digitRun_next hc, ih]
    rintro _ ⟨⟩
    exact absurd hd (by decide)
  | group hc hrun ih =>
    obtain ⟨d, r, rfl, hd⟩ := hrun.head
    rw [List.cons_append, List.cons_append, List.cons_append, digitRun, if_pos (by simp [hc, hd]),
      ← List.cons_append, ih]

/-- The longest run of digits that a text begins with. -/
theorem digitRun_spec (text : List Char) :
    (digitRun text = ([], text) ∧ NoDigit text) ∨
      ∃ run digits rest, digitRun text = (digits, rest) ∧ text = run ++ rest ∧
        Grouped run digits ∧ EndsRun rest := by
  fun_induction digitRun text with
  | case1 c d rest hboth digits rest' heq ih =>
    obtain ⟨hc, hd⟩ := Bool.and_eq_true_iff.mp hboth
    -- the run after the underscore is not empty
    obtain ⟨-, hnot⟩ | ⟨run, digits', rest'', hrun, happend, hgrouped, hends⟩ := ih
    · exact absurd hd (by simp [hnot d rest rfl])
    · obtain ⟨rfl, rfl⟩ := Prod.mk.inj (heq.symm.trans hrun)
      exact .inr ⟨c :: '_' :: run, _, _, rfl, by rw [happend]; rfl, .group hc hgrouped, hends⟩
  | case2 c d rest hboth hc =>
    refine .inr ⟨[c], _, _, rfl, rfl, .digit hc, noDigit_underscore _, ?_⟩
    rintro _ ⟨⟩ e r ⟨⟩
    simpa [hc] using hboth
  | case3 c d rest hboth hc =>
    left
    refine ⟨rfl, ?_⟩
    rintro e r ⟨⟩
    simpa using hc
  | case4 c rest hshape hc digits rest' heq ih =>
    right
    obtain ⟨hrun, hnot⟩ | ⟨run, digits', rest'', hrun, happend, hgrouped, hends⟩ := ih
    · obtain ⟨rfl, rfl⟩ := Prod.mk.inj (heq.symm.trans hrun)
      refine ⟨[c], _, _, rfl, rfl, .digit hc, hnot, ?_⟩
      rintro r rfl e r' rfl
      exact (hshape e r' rfl).elim
    · obtain ⟨rfl, rfl⟩ := Prod.mk.inj (heq.symm.trans hrun)
      exact ⟨c :: run, _, _, rfl, by rw [happend]; rfl, .next hc hgrouped, hends⟩
  | case5 c rest hshape hc =>
    left
    refine ⟨rfl, ?_⟩
    rintro e r ⟨⟩
    simpa using hc
  | case6 => exact .inl ⟨rfl, nofun⟩

/-! ## The parts of a decimal -/

/-- A group of digits, or none. -/
def Digits (text digits : List Char) : Prop :=
  (text = [] ∧ digits = []) ∨ Grouped text digits

/-- A sign, or none, and whether it is a minus. -/
inductive Sign : List Char → Bool → Prop
  | none : Sign [] false
  | plus : Sign ['+'] false
  | minus : Sign ['-'] true

/-- A point with the digits after it, or none. -/
inductive Fraction : List Char → List Char → Prop
  | none : Fraction [] []
  | point {text digits : List Char} : Digits text digits → Fraction ('.' :: text) digits

/-- A whole number with or without a minus. -/
def signedValue (negative : Bool) (digits : List Char) : ℤ :=
  if negative then -(Decimal.ofDigits digits : ℤ) else Decimal.ofDigits digits

/-- An exponent, or none. -/
inductive Exponent : List Char → ℤ → Prop
  | none : Exponent [] 0
  | some {e : Char} {sign run digits : List Char} {negative : Bool} : e = 'e' ∨ e = 'E' →
      Sign sign negative → Grouped run digits →
      Exponent (e :: (sign ++ run)) (signedValue negative digits)

/-- The exponent that stands at the end of a decimal. -/
def exponent? (text : List Char) : Option ℤ :=
  match text with
  | [] => some 0
  | e :: r =>
    if e = 'e' || e = 'E' then
      match digitRun (signed r).2 with
      | ([], _) | (_, _ :: _) => none
      | (digits, []) => some (signedValue (signed r).1 digits)
    else none

/-- The digits after the point of a decimal, and what follows them. -/
def fractionRun (text : List Char) : List Char × List Char :=
  match text with
  | '.' :: r => digitRun r
  | r => ([], r)

theorem exponent?_bind (text : List Char) (next : ℤ → Option Float) :
    (match text with
      | [] => some 0 >>= next
      | e :: r =>
        if e = 'e' || e = 'E' then
          match signed r with
          | (negative, r) =>
            match digitRun r with
            | ([], _) | (_, _ :: _) => none >>= next
            | (digits, []) =>
              let n : ℤ := Decimal.ofDigits digits
              some (if negative then -n else n) >>= next
        else none >>= next) = exponent? text >>= next := by
  cases text with
  | nil => rfl
  | cons e r =>
    simp only [exponent?]
    by_cases he : (e = 'e' || e = 'E') = true
    · rw [if_pos he, if_pos he]
      generalize signed r = sign
      obtain ⟨negative, r⟩ := sign
      dsimp only
      generalize digitRun r = run
      obtain ⟨digits, rest⟩ := run
      cases digits <;> cases rest <;> rfl
    · rw [if_neg he, if_neg he]

theorem unsignedDecimal?_eq (text : List Char) :
    unsignedDecimal? text = do
      let first := digitRun text
      let second := fractionRun first.2
      guard (!(first.1.isEmpty && second.1.isEmpty))
      let exponent ← exponent? second.2
      return Decimal.toFloat (Decimal.ofDigits (first.1 ++ second.1))
        (exponent - second.1.length) := by
  dsimp only
  rw [← exponent?_bind]
  rfl

/-! ## What the parts are read as -/

theorem Grouped.not_sign {text digits : List Char} (h : Grouped text digits) (c : Char)
    (rest : List Char) (hc : text = c :: rest) : c ≠ '+' ∧ c ≠ '-' := by
  obtain ⟨d, r, rfl, hd⟩ := h.head
  obtain ⟨rfl, rfl⟩ := List.cons.inj hc
  constructor <;> rintro rfl <;> exact absurd hd (by decide)

theorem signed_append {sign rest : List Char} {negative : Bool} (h : Sign sign negative)
    (hrest : ∀ c r, rest = c :: r → c ≠ '+' ∧ c ≠ '-') :
    signed (sign ++ rest) = (negative, rest) := by
  cases h with
  | plus => rfl
  | minus => rfl
  | none =>
    cases rest with
    | nil => rfl
    | cons c r =>
      obtain ⟨hplus, hminus⟩ := hrest c r rfl
      simp [signed, hplus, hminus]

theorem signed_spec (text : List Char) :
    ∃ sign, text = sign ++ (signed text).2 ∧ Sign sign (signed text).1 := by
  fun_cases signed text with
  | case1 rest => exact ⟨_, rfl, .minus⟩
  | case2 rest => exact ⟨_, rfl, .plus⟩
  | case3 hminus hplus => exact ⟨_, rfl, .none⟩

theorem Digits.digitRun_append {text digits rest : List Char} (h : Digits text digits)
    (hrest : EndsRun rest) : digitRun (text ++ rest) = (digits, rest) := by
  rcases h with ⟨rfl, rfl⟩ | h
  · exact digitRun_of_noDigit hrest.1
  · exact Text.digitRun_append h hrest

theorem digits_digitRun (text : List Char) :
    ∃ run, text = run ++ (digitRun text).2 ∧ Digits run (digitRun text).1 := by
  obtain ⟨hrun, -⟩ | ⟨run, digits, rest, hrun, happend, hgrouped, -⟩ := digitRun_spec text
  · rw [hrun]
    exact ⟨[], rfl, .inl ⟨rfl, rfl⟩⟩
  · rw [hrun]
    exact ⟨run, happend, .inr hgrouped⟩

theorem Exponent.endsRun {text : List Char} {k : ℤ} (h : Exponent text k) : EndsRun text := by
  cases h with
  | none => exact ⟨nofun, nofun⟩
  | some he hsign hrun =>
    constructor
    · rintro c rest ⟨⟩
      rcases he with rfl | rfl <;> rfl
    · rintro rest ⟨⟩
      rcases he with he | he <;> exact absurd he (by decide)

theorem Exponent.not_point {text : List Char} {k : ℤ} (h : Exponent text k) (rest : List Char) :
    text ≠ '.' :: rest := by
  cases h with
  | none => exact nofun
  | some he hsign hrun =>
    rintro ⟨⟩
    rcases he with he | he <;> exact absurd he (by decide)

/-- What is read for digits that end a text. -/
theorem runValue?_eq_some_iff {text : List Char} {negative : Bool} {k : ℤ} :
    (match digitRun text with
      | ([], _) | (_, _ :: _) => none
      | (digits, []) => some (signedValue negative digits)) = some k ↔
      ∃ digits, Grouped text digits ∧ k = signedValue negative digits := by
  constructor
  · intro h
    obtain ⟨hrun, -⟩ | ⟨run, digits, rest, hrun, rfl, hgrouped, -⟩ := digitRun_spec text
    · rw [hrun] at h
      cases h
    · rw [hrun] at h
      obtain ⟨c, digits, rfl⟩ := List.exists_cons_of_ne_nil hgrouped.ne_nil
      cases rest with
      | nil =>
        rw [List.append_nil]
        exact ⟨_, hgrouped, (Option.some.inj h).symm⟩
      | cons d rest => cases h
  · rintro ⟨digits, hgrouped, rfl⟩
    have hrun : digitRun (text ++ []) = (digits, []) := digitRun_append hgrouped ⟨nofun, nofun⟩
    obtain ⟨c, digits, rfl⟩ := List.exists_cons_of_ne_nil hgrouped.ne_nil
    rw [List.append_nil] at hrun
    rw [hrun]

theorem exponent?_eq_some_iff {text : List Char} {k : ℤ} :
    exponent? text = some k ↔ Exponent text k := by
  cases text with
  | nil =>
    constructor
    · rintro ⟨⟩
      exact .none
    · rintro ⟨⟩
      rfl
  | cons e r =>
    rw [exponent?]
    constructor
    · intro h
      split at h
      case isFalse => cases h
      case isTrue he =>
        obtain ⟨digits, hgrouped, rfl⟩ := runValue?_eq_some_iff.mp h
        obtain ⟨sign, happend, hsign⟩ := signed_spec r
        have hexponent := Exponent.some (e := e) (by simpa using he) hsign hgrouped
        rw [← happend] at hexponent
        exact hexponent
    · intro h
      cases h with
      | some he hsign hgrouped =>
        rw [if_pos (by simpa using he), signed_append hsign hgrouped.not_sign]
        exact runValue?_eq_some_iff.mpr ⟨_, hgrouped, rfl⟩

theorem Fraction.endsRun {text digits rest : List Char} (h : Fraction text digits)
    (hrest : EndsRun rest) : EndsRun (text ++ rest) := by
  cases h with
  | none => exact hrest
  | point _ =>
    constructor
    · rintro c r ⟨⟩
      rfl
    · rintro r ⟨⟩

theorem fractionRun_append {text digits rest : List Char} (h : Fraction text digits)
    (hrest : EndsRun rest) (hpoint : ∀ r, rest ≠ '.' :: r) :
    fractionRun (text ++ rest) = (digits, rest) := by
  cases h with
  | none =>
    rw [List.nil_append, fractionRun]
    exact hpoint
  | point h => exact h.digitRun_append hrest

theorem fraction_fractionRun (text : List Char) :
    ∃ run, text = run ++ (fractionRun text).2 ∧ Fraction run (fractionRun text).1 := by
  fun_cases fractionRun text with
  | case1 rest =>
    obtain ⟨run, happend, hdigits⟩ := digits_digitRun rest
    exact ⟨'.' :: run, congrArg ('.' :: ·) happend, .point hdigits⟩
  | case2 hpoint => exact ⟨[], rfl, .none⟩

/-! ## Decimals -/

/-- A decimal by its parts; the digits are those before and after the point. -/
structure Numeral where
  negative : Bool
  whole : List Char
  fraction : List Char
  exponent : ℤ

namespace Numeral

/-- What stands after the sign of a decimal. -/
inductive SpellsUnsigned (n : Numeral) : List Char → Prop
  | mk {whole fraction exponent : List Char} : Digits whole n.whole →
      Fraction fraction n.fraction → Exponent exponent n.exponent → n.whole ++ n.fraction ≠ [] →
      SpellsUnsigned n (whole ++ (fraction ++ exponent))

/-- The texts that are written so. -/
inductive Spells (n : Numeral) : List Char → Prop
  | mk {sign rest : List Char} : Sign sign n.negative → n.SpellsUnsigned rest →
      Spells n (sign ++ rest)

/-- The number that a decimal stands for. -/
def value (n : Numeral) : ℚ :=
  (if n.negative then -1 else 1) *
    (Decimal.ofDigits (n.whole ++ n.fraction) * 10 ^ (n.exponent - n.fraction.length))

/-- The double that is read for it, apart from its sign. -/
def unsignedFloat (n : Numeral) : Float :=
  Decimal.toFloat (Decimal.ofDigits (n.whole ++ n.fraction)) (n.exponent - n.fraction.length)

/-- The double that is read for it. -/
def toFloat (n : Numeral) : Float :=
  if n.negative then -n.unsignedFloat else n.unsignedFloat

/-- A decimal begins with a digit or its point. -/
theorem SpellsUnsigned.head {n : Numeral} {text : List Char} (h : n.SpellsUnsigned text) :
    ∃ c rest, text = c :: rest ∧ (c.isDigit = true ∨ c = '.') := by
  obtain ⟨hwhole, hfraction, hexponent, hsome⟩ := h
  rcases hwhole with ⟨rfl, hwhole⟩ | hwhole
  · rw [hwhole, List.nil_append] at hsome
    generalize n.fraction = digits at *
    cases hfraction with
    | none => exact absurd rfl hsome
    | point hdigits => exact ⟨'.', _, rfl, .inr rfl⟩
  · obtain ⟨c, rest, rfl, hc⟩ := hwhole.head
    exact ⟨c, _, rfl, .inl hc⟩

theorem SpellsUnsigned.not_sign {n : Numeral} {text : List Char} (h : n.SpellsUnsigned text)
    (c : Char) (rest : List Char) (hc : text = c :: rest) : c ≠ '+' ∧ c ≠ '-' := by
  obtain ⟨d, r, rfl, hd⟩ := h.head
  obtain ⟨rfl, rfl⟩ := List.cons.inj hc
  constructor <;> rintro rfl <;> exact absurd hd (by decide)

end Numeral

theorem unsignedDecimal?_eq_some_iff {text : List Char} {x : Float} (negative : Bool) :
    unsignedDecimal? text = some x ↔
      ∃ n : Numeral, n.negative = negative ∧ n.SpellsUnsigned text ∧ x = n.unsignedFloat := by
  rw [unsignedDecimal?_eq]
  dsimp only
  constructor
  · intro h
    obtain ⟨whole, hwhole, hdigits⟩ := digits_digitRun text
    obtain ⟨fraction, hrest, hfraction⟩ := fraction_fractionRun (digitRun text).2
    obtain ⟨_, hguard, h⟩ := Option.bind_eq_some_iff.mp h
    obtain ⟨k, hk, hx⟩ := Option.bind_eq_some_iff.mp h
    have hexponent := exponent?_eq_some_iff.mp hk
    have hsome : (digitRun text).1 ++ (fractionRun (digitRun text).2).1 ≠ [] := by
      intro hnil
      obtain ⟨hfirst, hsecond⟩ := List.append_eq_nil_iff.mp hnil
      simp [hfirst, hsecond, guard] at hguard
    have hspells := Numeral.SpellsUnsigned.mk (n := ⟨negative, _, _, k⟩) hdigits hfraction
      hexponent hsome
    rw [← hrest, ← hwhole] at hspells
    exact ⟨_, rfl, hspells, (Option.some.inj hx).symm⟩
  · rintro ⟨n, -, ⟨hwhole, hfraction, hexponent, hsome⟩, rfl⟩
    have hempty : (n.whole.isEmpty && n.fraction.isEmpty) = false := by
      simpa [List.append_eq_nil_iff] using hsome
    rw [hwhole.digitRun_append (hfraction.endsRun hexponent.endsRun)]
    dsimp only
    rw [fractionRun_append hfraction hexponent.endsRun hexponent.not_point]
    dsimp only
    rw [exponent?_eq_some_iff.mpr hexponent, hempty]
    rfl

/-- What follows the sign of a decimal is none of the words that are read too. -/
theorem Numeral.SpellsUnsigned.ne_word {n : Numeral} {text : List Char}
    (h : n.SpellsUnsigned text) :
    ["inf", "infinity"].contains (String.ofList (text.map Char.toLower)) = false ∧
      String.ofList (text.map Char.toLower) ≠ "nan" := by
  obtain ⟨c, rest, rfl, hc⟩ := h.head
  have hlower : c.toLower = c := by
    rcases hc with hc | rfl
    · refine dif_neg fun hupper => ?_
      have hdigit := (Bool.and_eq_true_iff.mp hc).2
      exact absurd (UInt32.le_trans hupper.1 (of_decide_eq_true hdigit)) (by decide)
    · rfl
  have hne {word : String} {letter : Char} {letters : List Char}
      (hword : word.toList = letter :: letters)
      (hletter : letter.isDigit = false ∧ letter ≠ '.') :
      String.ofList ((c :: rest).map Char.toLower) ≠ word := by
    rintro rfl
    rw [String.toList_ofList, List.map_cons, hlower] at hword
    obtain ⟨rfl, -⟩ := List.cons.inj hword
    rcases hc with hc | rfl
    · simp [hletter.1] at hc
    · exact hletter.2 rfl
  have hi : 'i'.isDigit = false ∧ 'i' ≠ '.' := by decide
  refine ⟨?_, hne rfl (by decide)⟩
  simp only [List.contains_cons, Bool.or_eq_false_iff, beq_eq_false_iff_ne]
  exact ⟨hne rfl hi, hne rfl hi, rfl⟩

theorem readFloat?_of_spells {n : Numeral} {text : List Char} (h : n.Spells (plainNumeral text)) :
    readFloat? text = some n.toFloat := by
  rw [readFloat?]
  generalize plainNumeral text = plain at h ⊢
  obtain ⟨hsign, hunsigned⟩ := h
  obtain ⟨hinfinity, hnan⟩ := hunsigned.ne_word
  rw [signed_append hsign hunsigned.not_sign]
  dsimp only
  rw [hinfinity, if_neg (by decide), if_neg hnan,
    (unsignedDecimal?_eq_some_iff n.negative).mpr ⟨n, rfl, hunsigned, rfl⟩]
  rfl

/-- Only a decimal is read as a number; an infinity and what is no number are read too. -/
theorem spells_of_readFloat? {text : List Char} {x : Float} (h : readFloat? text = some x) :
    (∃ n : Numeral, n.Spells (plainNumeral text) ∧ x = n.toFloat) ∨
      Decimal.truncate? x = none := by
  obtain ⟨sign, happend, hsign⟩ := signed_spec (plainNumeral text)
  rw [readFloat?] at h
  generalize (signed (plainNumeral text)) = parts at *
  obtain ⟨negative, rest⟩ := parts
  dsimp only at *
  split at h
  · right
    obtain rfl : (if negative then -(1.0 / 0.0) else 1.0 / 0.0) = x := Option.some.inj h
    cases negative <;> rfl
  · split at h
    · right
      obtain rfl : (if negative then -(0.0 / 0.0) else 0.0 / 0.0) = x := Option.some.inj h
      cases negative <;> rfl
    · left
      obtain ⟨y, hy, hx⟩ := Option.bind_eq_some_iff.mp h
      obtain ⟨n, rfl, hspells, rfl⟩ := (unsignedDecimal?_eq_some_iff negative).mp hy
      rw [happend]
      exact ⟨n, .mk hsign hspells, (Option.some.inj hx).symm⟩

/-! ## Whole numbers -/

/-- A whole number as it is written: a sign and digits, and nothing else. -/
inductive WholeNumeral : List Char → ℤ → Prop
  | mk {sign run digits : List Char} {negative : Bool} : Sign sign negative → Grouped run digits →
      WholeNumeral (sign ++ run) (signedValue negative digits)

theorem Grouped.not_point {text digits : List Char} (h : Grouped text digits) : '.' ∉ text := by
  have hdigit {c : Char} (hc : c.isDigit = true) : '.' ≠ c := by
    rintro rfl
    exact absurd hc (by decide)
  induction h with
  | digit hc => simp [hdigit hc]
  | next hc _ ih => simp [hdigit hc, ih]
  | group hc _ ih => simp [hdigit hc, ih]

/-- No point stands in a whole number. -/
theorem WholeNumeral.not_point {text : List Char} {k : ℤ} (h : WholeNumeral text k) :
    '.' ∉ text := by
  obtain ⟨hsign, hrun⟩ := h
  cases hsign <;> simp [hrun.not_point]

/-- A whole number is a decimal without a fraction and an exponent. -/
theorem WholeNumeral.spells {text : List Char} {k : ℤ} (h : WholeNumeral text k) :
    ∃ n : Numeral, n.Spells text ∧ n.value = k := by
  obtain ⟨hsign, hrun⟩ := h
  rename_i sign run digits negative
  have hspells : Numeral.SpellsUnsigned ⟨negative, digits, [], 0⟩ (run ++ ([] ++ [])) :=
    .mk (.inr hrun) .none .none (by simpa using hrun.ne_nil)
  rw [List.append_nil, List.append_nil] at hspells
  refine ⟨_, .mk hsign hspells, ?_⟩
  cases negative <;> simp [Numeral.value, signedValue]

/-- Only whole numbers are read as such. -/
theorem wholeNumeral_of_readInt? {text : List Char} {k : ℤ} (h : readInt? text = some k) :
    WholeNumeral (plainNumeral text) k := by
  obtain ⟨sign, happend, hsign⟩ := signed_spec (plainNumeral text)
  rw [readInt?] at h
  generalize signed (plainNumeral text) = parts at *
  obtain ⟨negative, rest⟩ := parts
  dsimp only at *
  obtain ⟨hrun, -⟩ | ⟨run, digits, rest', hrun, rfl, hgrouped, -⟩ := digitRun_spec rest
  · rw [hrun] at h
    cases h
  · rw [hrun] at h
    obtain ⟨c, digits, rfl⟩ := List.exists_cons_of_ne_nil hgrouped.ne_nil
    cases rest' with
    | cons d rest' => cases h
    | nil =>
      dsimp only at h
      split at h
      case isTrue => cases h
      case isFalse =>
        rw [happend, List.append_nil, ← Option.some.inj h]
        exact .mk hsign hgrouped

end Playground.Text
