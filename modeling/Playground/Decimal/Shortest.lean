import Playground.Decimal.Binary

/-!
# Shortest decimals

The decimal with the fewest digits among those that read back as a given double, and of these the
nearest to it.

The decimals that read back as a double form an interval around it. With `n` digits the only
candidates are the two neighbours of the double on the grid of decimals with `n` digits: if any
point of the grid lies in the interval, one of these does. So the grids are tried from the coarsest
on, and seventeen digits are always enough.
-/

namespace Playground.Decimal

/-- A positive decimal: `digits * 10 ^ exponent`. -/
structure Scaled where
  digits : Nat
  exponent : Int
  deriving DecidableEq, Repr, Inhabited

/-- The numbers that round to `value / unit`: those between `low / unit` and `high / unit`, with
the bounds themselves if `closed`. -/
structure Rounding where
  low : Nat
  value : Nat
  high : Nat
  unit : Nat
  closed : Bool
  deriving Repr

/-- The numbers that round to `mantissa * 2 ^ exponent`. -/
def Rounding.ofBinary (mantissa : Nat) (exponent : Int) (narrow : Bool) : Rounding :=
  let scale := Nat.pow 2 exponent.toNat
  { low := (4 * mantissa - if narrow then 1 else 2) * scale
    value := 4 * mantissa * scale
    high := (4 * mantissa + 2) * scale
    unit := 4 * Nat.pow 2 (-exponent).toNat
    closed := mantissa % 2 = 0 }

/-- Whether `n * 10 ^ exponent` rounds to the value. -/
def Rounding.holds (r : Rounding) (n : Nat) (exponent : Int) : Bool :=
  let x := n * r.unit * Nat.pow 10 exponent.toNat
  let down := Nat.pow 10 (-exponent).toNat
  if r.closed then r.low * down ≤ x && x ≤ r.high * down
  else r.low * down < x && x < r.high * down

/-- The whole part of `value / 10 ^ exponent`, and what is left of it against half a unit: below,
at or above. -/
def Rounding.cut (r : Rounding) (exponent : Int) : Nat × Ordering :=
  let num := r.value * Nat.pow 10 (-exponent).toNat
  let den := r.unit * Nat.pow 10 exponent.toNat
  (num / den, compare (2 * (num % den)) den)

/-- The exponent of the leading digit of `num / den`: the greatest `e` with `10 ^ e ≤ num / den`. -/
def leadingExponent (num den : Nat) : Int :=
  let guess : Int := (Nat.toDigits 10 num).length - (Nat.toDigits 10 den).length
  let fits (e : Int) : Bool := Nat.pow 10 e.toNat * den ≤ num * Nat.pow 10 (-e).toNat
  if fits guess then guess else guess - 1

/-- The shortest decimal of `count` or more digits; `fuel` more digits may be tried. -/
def shortestFrom (r : Rounding) (lead : Int) (count : Nat) : Nat → Scaled
  | 0 =>
    let exponent := lead - count + 1
    ⟨(r.cut exponent).1, exponent⟩
  | fuel + 1 =>
    let exponent := lead - count + 1
    let (n, half) := r.cut exponent
    let below := r.holds n exponent
    let above := r.holds (n + 1) exponent
    if below && (!above || half = .lt || (half = .eq && n % 2 = 0)) then ⟨n, exponent⟩
    else if above then ⟨n + 1, exponent⟩
    else shortestFrom r lead (count + 1) fuel

/-- A decimal without zeros at its end. -/
def stripZeros (s : Scaled) : Nat → Scaled
  | 0 => s
  | fuel + 1 =>
    if s.digits ≠ 0 ∧ s.digits % 10 = 0 then stripZeros ⟨s.digits / 10, s.exponent + 1⟩ fuel else s

/-- The shortest decimal of `mantissa * 2 ^ exponent`. -/
def shortest (mantissa : Nat) (exponent : Int) (narrow : Bool) : Scaled :=
  if mantissa = 0 then ⟨0, 0⟩
  else
    let r := Rounding.ofBinary mantissa exponent narrow
    stripZeros (shortestFrom r (leadingExponent r.value r.unit) 1 17) 20

/-- The nearest decimal with `count` significant digits; a tie goes to the even neighbour. -/
def rounded (count : Nat) (mantissa : Nat) (exponent : Int) : Scaled :=
  if mantissa = 0 then ⟨0, 0⟩
  else
    let r := Rounding.ofBinary mantissa exponent false
    let exponent := leadingExponent r.value r.unit - count + 1
    let (n, half) := r.cut exponent
    let n := if half = .gt || (half = .eq && n % 2 = 1) then n + 1 else n
    stripZeros ⟨n, exponent⟩ (count + 1)

end Playground.Decimal
