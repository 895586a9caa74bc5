import Playground.Decimal.Shortest

/-!
# Writing decimals

A decimal is written positionally if its leading digit is near the decimal point, and with an
exponent otherwise. Exponents have a sign and at least two digits.
-/

namespace Playground.Decimal

/-- How decimals are written. -/
structure Style where
  /-- The highest exponent of a leading digit that is written positionally. -/
  highest : Int
  /-- Whether a whole number written positionally is followed by a point and a zero. -/
  pointed : Bool
  deriving Repr

/-- The style of values: whole numbers keep a point, and exponents begin at `10 ^ 16`. -/
def valueStyle : Style := ⟨15, true⟩

/-- The style of measures: no superfluous point, and exponents begin at a million. -/
def measureStyle : Style := ⟨5, false⟩

/-- Digits with a point after the first `before` of them. -/
def pointAfter (before : Nat) (digits : List Char) (pointed : Bool) : List Char :=
  let whole := digits.take before ++ List.replicate (before - digits.length) '0'
  match digits.drop before with
  | [] => if pointed then whole ++ ['.', '0'] else whole
  | fraction => whole ++ '.' :: fraction

/-- An exponent. -/
def exponentText (e : Int) : List Char :=
  let digits := Nat.toDigits 10 e.natAbs
  'e' :: (if e < 0 then '-' else '+') :: List.replicate (2 - digits.length) '0' ++ digits

/-- The text of a decimal. The lowest exponent of a leading digit written positionally is `-4`. -/
def Scaled.text (style : Style) (s : Scaled) : List Char :=
  let digits := Nat.toDigits 10 s.digits
  let lead := s.exponent + digits.length - 1
  if -4 ≤ lead ∧ lead ≤ style.highest then
    if lead < 0 then '0' :: '.' :: List.replicate (-lead - 1).toNat '0' ++ digits
    else pointAfter (lead + 1).toNat digits style.pointed
  else pointAfter 1 digits false ++ exponentText lead

/-- The text of a double, given the decimal that stands for it. -/
def floatText (style : Style) (decimal : Nat → Int → Bool → Scaled) (x : Float) : String :=
  match magnitude x with
  | .notANumber => "nan"
  | .infinite => if isNegative x then "-inf" else "inf"
  | .finite m e narrow =>
    let text := (decimal m e narrow).text style
    String.ofList (if isNegative x then '-' :: text else text)

/-- A double with as many digits as it takes to read it back. -/
def exactText (x : Float) : String :=
  floatText valueStyle shortest x

/-- A double with at most six digits. -/
def measureText (x : Float) : String :=
  floatText measureStyle (fun m e _ => rounded 6 m e) x

end Playground.Decimal
