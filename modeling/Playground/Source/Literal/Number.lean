import Playground.Decimal.Reading
import Playground.Source.Fault
import Playground.Source.Literal.Escape
import Playground.Source.Tree

/-!
# Number literals

The value of a number as the scanner delivers it: an integer in one of four bases, a decimal, or an
imaginary number. Integers in base ten have a limit on their length.
-/

namespace Playground.Source.Literal

/-- The longest integer in base ten, in digits. -/
def maxDigits : Nat := 4300

/-- The value of a number, or the number of its digits if there are too many of them. -/
def ofNumeral (text : String) : Except Nat Literal :=
  let cs := text.toList.filter (· ≠ '_')
  match cs with
  | '0' :: x :: digits =>
    if x = 'x' || x = 'X' then .ok (.int (Escape.hexNumber digits))
    else if x = 'o' || x = 'O' then .ok (.int (Escape.octalValue digits))
    else if x = 'b' || x = 'B' then
      .ok (.int (digits.foldl (fun n c => n * 2 + (c.toNat - 48)) 0 : Nat))
    else decimal cs
  | _ => decimal cs
where
  /-- The value of a number in base ten. -/
  decimal (cs : List Char) : Except Nat Literal :=
    match cs.getLast? with
    | some 'j' | some 'J' => .ok (.complex 0.0 (Decimal.readFloat cs))
    | _ =>
      if cs.all Char.isDigit then
        if cs.length > maxDigits && cs.any (· ≠ '0') then .error cs.length
        else .ok (.int (Decimal.ofDigits cs))
      else .ok (.float (Decimal.readFloat cs))

end Playground.Source.Literal
