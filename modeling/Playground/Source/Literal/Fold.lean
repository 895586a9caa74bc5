import Playground.Source.Tree

/-!
# Arithmetic of literals

What an operator makes of literal operands, where that can be told before the program runs and is
not too large to be kept: integers stay below 128 bits, texts below 4096 characters and sequences
below 256 items.
-/

namespace Playground.Source.Literal

/-- The name of the type of a value. -/
def typeName : Literal → String
  | .none => "NoneType"
  | .bool _ => "bool"
  | .ellipsis => "ellipsis"
  | .int _ => "int"
  | .float _ => "float"
  | .complex .. => "complex"
  | .text .. => "str"
  | .bytes _ => "bytes"
  | .tuple _ => "tuple"
  | .frozenset _ => "frozenset"

/-- A value as an integer. -/
def asInt? : Literal → Option Int
  | .int n => some n
  | .bool b => some (if b then 1 else 0)
  | _ => Option.none

/-- An integer as a double, unless it is too large. -/
def intToFloat? (n : Int) : Option Float :=
  let x := Float.ofInt n
  if x.isFinite then some x else Option.none

/-- A value as a double. -/
def asFloat? : Literal → Option Float
  | .float x => some x
  | l => l.asInt?.bind intToFloat?

/-- A value as a complex number. -/
def asComplex? : Literal → Option (Float × Float)
  | .complex re im => some (re, im)
  | l => l.asFloat?.map fun x => (x, 0.0)

/-- The number of bits of an integer without its sign. -/
def bitLength (n : Int) : Nat :=
  if n = 0 then 0 else n.natAbs.log2 + 1

/-- Whether a value counts as true. -/
def isTrue : Literal → Bool
  | .none => false
  | .bool b => b
  | .ellipsis => true
  | .int n => n ≠ 0
  | .float x => x != 0.0
  | .complex re im => re != 0.0 || im != 0.0
  | .text s _ => !s.isEmpty
  | .bytes b => !b.isEmpty
  | .tuple es => !es.isEmpty
  | .frozenset es => !es.isEmpty

/-- The value of an operator before a literal. -/
def unary? (op : UnaryOp) (l : Literal) : Option Literal :=
  match op, l with
  | .not, l => some (.bool (!l.isTrue))
  | .invert, l => l.asInt?.map fun n => .int (-n - 1)
  | .plus, .float x => some (.float x)
  | .plus, .complex re im => some (.complex re im)
  | .plus, l => l.asInt?.map .int
  | .minus, .float x => some (.float (-x))
  | .minus, .complex re im => some (.complex (-re) (-im))
  | .minus, l => l.asInt?.map fun n => .int (-n)

/-- The remainder of doubles, with the sign of the divisor. -/
def floatMod (a b : Float) : Float :=
  let q := (a / b).floor
  a - q * b

/-- Operators on integers. -/
def binaryInt? (op : BinaryOp) (a b : Int) : Option Literal :=
  let both := a ≠ 0 ∧ b ≠ 0
  match op with
  | .add => some (.int (a + b))
  | .sub => some (.int (a - b))
  | .mul => if both ∧ bitLength a + bitLength b > 128 then Option.none else some (.int (a * b))
  | .div =>
    if b = 0 then Option.none
    else (intToFloat? a).bind fun x => (intToFloat? b).map fun y => .float (x / y)
  | .floorDiv => if b = 0 then Option.none else some (.int (a.fdiv b))
  | .mod => if b = 0 then Option.none else some (.int (a.fmod b))
  | .pow =>
    if b < 0 then
      if a = 0 then Option.none
      else (intToFloat? a).bind fun x => (intToFloat? b).map fun y => .float (x.pow y)
    else if both ∧ bitLength a > 128 / b.toNat then Option.none
    else if bitLength a ≤ 1 then some (.int (if b % 2 = 0 then a * a + (if b = 0 ∧ a = 0 then 1 else 0) else a))
    else some (.int (Int.pow a b.toNat))
  | .shiftLeft =>
    if b < 0 then Option.none
    else if both ∧ (bitLength a > 128 ∨ b > 128 - bitLength a) then Option.none
    else if a = 0 then some (.int 0)
    else some (.int (a * Int.pow 2 b.toNat))
  | .shiftRight =>
    if b < 0 then Option.none
    else some (.int (if b > 1000000 then (if a < 0 then -1 else 0) else a.fdiv (Int.pow 2 b.toNat)))
  | .bitOr => some (.int (bitwise (· || ·) a b))
  | .bitXor => some (.int (bitwise (fun x y => x != y) a b))
  | .bitAnd => some (.int (bitwise (· && ·) a b))
  | .matMul => Option.none
where
  /-- An operation on the bits of integers in two's complement. -/
  bitwise (f : Bool → Bool → Bool) (a b : Int) : Int :=
    let width := max (bitLength a) (bitLength b) + 1
    let ua := (a % Nat.pow 2 width).toNat
    let ub := (b % Nat.pow 2 width).toNat
    let r := (List.range width).foldl (fun (n : Nat) i =>
      if f (ua.testBit i) (ub.testBit i) then n + Nat.pow 2 i else n) 0
    if r ≥ Nat.pow 2 (width - 1) then (r : Int) - Nat.pow 2 width else r

/-- Operators on doubles. -/
def binaryFloat? (op : BinaryOp) (a b : Float) : Option Literal :=
  match op with
  | .add => some (.float (a + b))
  | .sub => some (.float (a - b))
  | .mul => some (.float (a * b))
  | .div => if b == 0.0 then Option.none else some (.float (a / b))
  | .floorDiv => if b == 0.0 then Option.none else some (.float (a / b).floor)
  | .mod => if b == 0.0 then Option.none else some (.float (floatMod a b))
  | .pow =>
    if a == 0.0 && b < 0.0 then Option.none
    else if a < 0.0 && b.floor != b then some (.complex 0.0 0.0)
    else
      let r := a.pow b
      if r.isInf && a.isFinite && b.isFinite then Option.none else some (.float r)
  | _ => Option.none

/-- Operators on complex numbers. Powers are told to be complex; their digits are not kept. -/
def binaryComplex? (op : BinaryOp) (a b : Float × Float) : Option Literal :=
  match op with
  | .add => some (.complex (a.1 + b.1) (a.2 + b.2))
  | .sub => some (.complex (a.1 - b.1) (a.2 - b.2))
  | .mul => some (.complex (a.1 * b.1 - a.2 * b.2) (a.1 * b.2 + a.2 * b.1))
  | .div =>
    let d := b.1 * b.1 + b.2 * b.2
    if d == 0.0 then Option.none
    else some (.complex ((a.1 * b.1 + a.2 * b.2) / d) ((a.2 * b.1 - a.1 * b.2) / d))
  | .pow =>
    if a.1 == 0.0 && a.2 == 0.0 && (b.1 < 0.0 || b.2 != 0.0) then Option.none
    else some (.complex 0.0 0.0)
  | _ => Option.none

/-- The number of items of a sequence and of the sequences in it; `none` when there are more than
`limit`. The fuel bounds how deeply they are nested. -/
def itemsLeft? (limit : Int) : Nat → Literal → Option Int
  | 0, _ => Option.none
  | fuel + 1, .tuple es =>
    es.foldl (fun left e => left.bind fun n => itemsLeft? n fuel e)
      (if limit - es.length < 0 then Option.none else some (limit - es.length))
  | _, _ => some limit

/-- `n` copies of a sequence. -/
def repeat? (n : Int) (l : Literal) : Option Literal :=
  match l with
  | .text s mark =>
    if s.isEmpty then some (.text s mark)
    else if n < 0 ∨ n > 4096 / s.length then Option.none
    else some (.text (String.join (List.replicate n.toNat s)) mark)
  | .bytes b =>
    if b.isEmpty then some (.bytes b)
    else if n < 0 ∨ n > 4096 / b.length then Option.none
    else some (.bytes (List.replicate n.toNat b).flatten)
  | .tuple es =>
    if es.isEmpty then some (.tuple es)
    else if n < 0 ∨ n > 256 / es.length then Option.none
    else if n ≠ 0 ∧ (itemsLeft? (1024 / n) 64 (.tuple es)).isNone then Option.none
    else some (.tuple (List.replicate n.toNat es).flatten)
  | _ => Option.none

/-- The value of an operator between literals. -/
def binary? (op : BinaryOp) (a b : Literal) : Option Literal :=
  match op, a, b with
  | .add, .text s m, .text t _ => some (.text (s ++ t) m)
  | .add, .bytes s, .bytes t => some (.bytes (s ++ t))
  | .add, .tuple s, .tuple t => some (.tuple (s ++ t))
  | op, a, b =>
    match op, a.asInt?, b.asInt? with
    | .bitOr, some x, some y | .bitXor, some x, some y | .bitAnd, some x, some y =>
      match a, b with
      | .bool _, .bool _ =>
        (binaryInt? op x y).map fun
          | .int n => .bool (n ≠ 0)
          | other => other
      | _, _ => binaryInt? op x y
    | op, some x, some y => binaryInt? op x y
    | .mul, some n, Option.none =>
      match b with
      | .float _ | .complex .. => numbers op a b
      | _ => repeat? n b
    | .mul, Option.none, some n =>
      match a with
      | .float _ | .complex .. => numbers op a b
      | _ => repeat? n a
    | op, _, _ => numbers op a b
where
  /-- Operators on numbers of which one at least is not an integer. -/
  numbers (op : BinaryOp) (a b : Literal) : Option Literal :=
    match a, b with
    | .complex .., _ | _, .complex .. =>
      a.asComplex?.bind fun x => b.asComplex?.bind fun y => binaryComplex? op x y
    | .float _, _ | _, .float _ =>
      a.asFloat?.bind fun x => b.asFloat?.bind fun y => binaryFloat? op x y
    | _, _ => Option.none

/-- An item of a sequence. -/
def item? (l index : Literal) : Option Literal :=
  index.asInt?.bind fun i =>
    let pick {α : Type} (xs : List α) : Option α :=
      let i := if i < 0 then i + xs.length else i
      if i < 0 then Option.none else xs[i.toNat]?
    match l with
    | .text s _ => (pick s.toList).map fun c => .text (String.singleton c) false
    | .bytes b => (pick b).map fun x => .int x.toNat
    | .tuple es => pick es
    | _ => Option.none

/-- Whether two values are equal as keys of a mapping. -/
def sameKey (a b : Literal) : Bool :=
  match a, b with
  | .text s _, .text t _ => s == t
  | .bytes s, .bytes t => s == t
  | .none, .none => true
  | .ellipsis, .ellipsis => true
  | a, b =>
    match a.asInt?, b.asInt? with
    | some x, some y => x == y
    | _, _ =>
      match a.asComplex?, b.asComplex? with
      | some x, some y => x.1 == y.1 && x.2 == y.2
      | _, _ => false

end Playground.Source.Literal
