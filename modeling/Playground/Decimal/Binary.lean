/-!
# The parts of a double

A finite double is a whole number times a power of two, with a sign.
-/

namespace Playground.Decimal

/-- A double without its sign. -/
inductive Magnitude where
  | notANumber
  | infinite
  /-- `mantissa * 2 ^ exponent`; `narrow` tells that the next smaller double is only half as far
  away as the next larger one. -/
  | finite (mantissa : Nat) (exponent : Int) (narrow : Bool)
  deriving DecidableEq, Repr, Inhabited

/-- Whether the sign bit of a double is set. -/
def isNegative (x : Float) : Bool :=
  x.toBits.toNat / Nat.pow 2 63 == 1

/-- What a double is, apart from its sign. -/
def magnitude (x : Float) : Magnitude :=
  let bits := x.toBits.toNat % Nat.pow 2 63
  let fraction := bits % Nat.pow 2 52
  let biased : Nat := bits / Nat.pow 2 52
  if biased = 2047 then if fraction = 0 then .infinite else .notANumber
  else if biased = 0 then .finite fraction (-1074) false
  else .finite (Nat.pow 2 52 + fraction) ((biased : Int) - 1075) (fraction == 0 && biased > 1)

/-- A double as a whole number, towards zero; none if it is not finite. -/
def truncate? (x : Float) : Option Int :=
  match magnitude x with
  | .finite m e _ =>
    let n := if e ≥ 0 then m * Nat.pow 2 e.toNat else m / Nat.pow 2 (-e).toNat
    some (if isNegative x then -n else n)
  | _ => none

/-- A finite double without a fraction, as a whole number. -/
def whole? (x : Float) : Option Int :=
  match magnitude x with
  | .finite m e _ => if e ≥ 0 || m % Nat.pow 2 (-e).toNat = 0 then truncate? x else none
  | _ => none

end Playground.Decimal
