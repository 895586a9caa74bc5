/-!
# Reading decimals

The double nearest to a decimal, ties going to the even neighbour. The decimal is an integer scaled
by a power of ten; scales far outside the range of doubles are answered without computing the power.
-/

namespace Playground.Decimal

/-- The number of decimal digits of a positive number, and `1` for zero. -/
def digitCount (n : Nat) : Nat :=
  (Nat.toDigits 10 n).length

/-- The double nearest to `mantissa * 10 ^ exponent`. -/
def toFloat (mantissa : Nat) (exponent : Int) : Float :=
  if mantissa = 0 then 0.0
  else
    let magnitude := exponent + digitCount mantissa
    if magnitude > 400 then 1.0 / 0.0
    else if magnitude < -400 then 0.0
    else if exponent ≥ 0 then Float.ofScientific (mantissa * Nat.pow 10 exponent.toNat) false 0
    else Float.ofScientific mantissa true (-exponent).toNat

/-- The value of decimal digits. -/
def ofDigits (digits : List Char) : Nat :=
  digits.foldl (fun n c => n * 10 + (c.toNat - 48)) 0

/-- The double of an unsigned decimal numeral: digits, optionally a point with digits, optionally an
exponent. Parts that are missing count as zero; characters of no part are not looked at. -/
def readFloat (numeral : List Char) : Float :=
  let whole := numeral.takeWhile Char.isDigit
  let rest := numeral.dropWhile Char.isDigit
  let (fraction, rest) :=
    match rest with
    | '.' :: r => (r.takeWhile Char.isDigit, r.dropWhile Char.isDigit)
    | r => ([], r)
  let exponent : Int :=
    match rest with
    | e :: '-' :: r => if e = 'e' || e = 'E' then -(ofDigits (r.takeWhile Char.isDigit)) else 0
    | e :: '+' :: r => if e = 'e' || e = 'E' then ofDigits (r.takeWhile Char.isDigit) else 0
    | e :: r => if e = 'e' || e = 'E' then ofDigits (r.takeWhile Char.isDigit) else 0
    | [] => 0
  toFloat (ofDigits (whole ++ fraction)) (exponent - fraction.length)

end Playground.Decimal
