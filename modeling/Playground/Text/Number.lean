import Playground.Decimal.Reading
import Playground.Text.Blank
import Playground.Text.Digit

/-!
# Numerals

Reading of whole numbers and of decimals as people write them: with white space around, with a
sign, with digits of any script, and with single underscores between digits.
-/

namespace Playground.Text

/-- A text in which the digits of all scripts are ASCII digits, without white space around. -/
def plainNumeral (text : List Char) : List Char :=
  (trimSpace text).map fun c =>
    match decimalValue? c with
    | some d => Char.ofNat (48 + d)
    | none => c

/-- Digits with single underscores between them, without the underscores; what remains follows. -/
def digitRun : List Char → List Char × List Char
  | c :: '_' :: d :: rest =>
    if c.isDigit && d.isDigit then
      let (digits, rest) := digitRun (d :: rest)
      (c :: digits, rest)
    else if c.isDigit then ([c], '_' :: d :: rest)
    else ([], c :: '_' :: d :: rest)
  | c :: rest =>
    if c.isDigit then
      let (digits, rest) := digitRun rest
      (c :: digits, rest)
    else ([], c :: rest)
  | [] => ([], [])

/-- A sign, and what follows it. -/
def signed : List Char → Bool × List Char
  | '-' :: rest => (true, rest)
  | '+' :: rest => (false, rest)
  | rest => (false, rest)

/-- The most digits of a whole number that is read from a text or written to one. -/
def maxDigits : Nat := 4300

/-- A whole number. -/
def readInt? (text : List Char) : Option Int :=
  let (negative, rest) := signed (plainNumeral text)
  match digitRun rest with
  | ([], _) | (_, _ :: _) => none
  | (digits, []) =>
    if digits.length > maxDigits then none
    else
      let n : Int := Decimal.ofDigits digits
      some (if negative then -n else n)

/-- A decimal without a sign: digits with an optional point among or around them, and an optional
exponent. -/
def unsignedDecimal? (text : List Char) : Option Float := do
  let (whole, rest) := digitRun text
  let (fraction, rest) :=
    match rest with
    | '.' :: r => digitRun r
    | r => ([], r)
  guard (!(whole.isEmpty && fraction.isEmpty))
  let exponent : Int ←
    match rest with
    | [] => some 0
    | e :: r =>
      if e = 'e' || e = 'E' then
        let (negative, r) := signed r
        match digitRun r with
        | ([], _) | (_, _ :: _) => none
        | (digits, []) =>
          let n : Int := Decimal.ofDigits digits
          some (if negative then -n else n)
      else none
  return Decimal.toFloat (Decimal.ofDigits (whole ++ fraction)) (exponent - fraction.length)

/-- A decimal, an infinity or a value that is not a number; the last two are written out in small
or capital letters. -/
def readFloat? (text : List Char) : Option Float := do
  let (negative, rest) := signed (plainNumeral text)
  let x ←
    if ["inf", "infinity"].contains (String.ofList (rest.map Char.toLower)) then some (1.0 / 0.0)
    else if String.ofList (rest.map Char.toLower) = "nan" then some (0.0 / 0.0)
    else unsignedDecimal? rest
  return if negative then -x else x

end Playground.Text
