import Playground.Decimal.Writing
import Playground.Json.Value
import Playground.Text.Number
import Playground.Text.Quoted

/-!
# Values of programs

The values that programs compute with here, and their two texts: the one that shows what a value is,
and the one that is printed. They differ only for texts, which are printed without quotes.

Not every value has a text. A whole number may have too many digits for one, and values may be
nested more deeply than the stack allows.
-/

namespace Playground.Host

/-- A value of a program. -/
inductive Value where
  | none
  | bool (value : Bool)
  | int (value : Int)
  | float (value : Float)
  | text (value : String)
  | list (elements : List Value)
  | tuple (elements : List Value)
  | dict (entries : List (String × Value))
  deriving Inhabited

/-- Why a value has no text. -/
inductive ShowError where
  /-- A whole number in it has too many digits. -/
  | tooLong
  /-- It is nested too deeply. -/
  | tooDeep
  deriving DecidableEq, Repr

/-- The type of the exception for a value without a text. -/
def ShowError.type : ShowError → String
  | .tooLong => "ValueError"
  | .tooDeep => "RecursionError"

/-- The wording of that exception. -/
def ShowError.message : ShowError → String
  | .tooLong =>
    s!"Exceeds the limit ({Text.maxDigits} digits) for integer string conversion; " ++
      "use sys.set_int_max_str_digits() to increase the limit"
  | .tooDeep => "maximum recursion depth exceeded while getting the repr of an object"

namespace Value

/-- The text of a tuple with elements of these texts. -/
def tupleText : List String → String
  | [t] => "(" ++ t ++ ",)"
  | texts => "(" ++ ", ".intercalate texts ++ ")"

mutual

/-- The text that shows what a value is. The stack has room for values in values up to a depth. -/
def shown (room : Nat) (v : Value) : Except ShowError String :=
  if room = 0 then .error .tooDeep
  else
    match v with
    | .none => .ok "None"
    | .bool true => .ok "True"
    | .bool false => .ok "False"
    | .int n =>
      if Text.maxDigits < Decimal.digitCount n.natAbs then .error .tooLong else .ok (toString n)
    | .float x => .ok (Decimal.exactText x)
    | .text s => .ok (Text.quoted s)
    | .list vs => (shownAll (room - 1) vs).map fun texts => "[" ++ ", ".intercalate texts ++ "]"
    | .tuple vs => (shownAll (room - 1) vs).map tupleText
    | .dict es =>
      (shownEntries (room - 1) es).map fun texts => "\x7b" ++ ", ".intercalate texts ++ "\x7d"

/-- The texts of values; the first value without one counts. -/
def shownAll (room : Nat) : List Value → Except ShowError (List String)
  | [] => .ok []
  | v :: vs => do
    let text ← shown room v
    return text :: (← shownAll room vs)

/-- The texts of entries. -/
def shownEntries (room : Nat) : List (String × Value) → Except ShowError (List String)
  | [] => .ok []
  | (k, v) :: es => do
    let text ← shown room v
    return (Text.quoted k ++ ": " ++ text) :: (← shownEntries room es)

end

/-- The text that is printed. -/
def printed (room : Nat) : Value → Except ShowError String
  | .text s => .ok s
  | v => shown room v

/-- Whether a value counts as nothing. -/
def isEmpty : Value → Bool
  | .none => true
  | .bool b => !b
  | .int n => n == 0
  | .float x => x == 0.0
  | .text s => s.isEmpty
  | .list vs | .tuple vs => vs.isEmpty
  | .dict es => es.isEmpty

/-- A value that is a whole number; truth values are, and decimals are not. -/
def index? : Value → Option Int
  | .int n => some n
  | .bool b => some (if b then 1 else 0)
  | _ => Option.none

/-- A value as a whole number, if it is equal to one. -/
def asInt? : Value → Option Int
  | .float x => Decimal.whole? x
  | v => v.index?

mutual

/-- Whether a value is equal to one that can be looked up in a set, which lists and dictionaries
cannot. Numbers of different kinds may be equal. -/
def equals : Value → Value → Bool
  | .none, .none => true
  | .text s, .text t => s == t
  | .tuple vs, .tuple ws => equalsAll vs ws
  | .float x, .float y => x == y
  | v, w =>
    match v.asInt?, w.asInt? with
    | some m, some n => m == n
    | _, _ => false

/-- Whether values are equal, one by one. -/
def equalsAll : List Value → List Value → Bool
  | [], [] => true
  | v :: vs, w :: ws => equals v w && equalsAll vs ws
  | _, _ => false

end

/-- Whether a value is equal to itself; only what is no number is not. -/
def equalsItself : Value → Bool
  | .float x => x == x
  | _ => true

/-- The name of the type of a value. -/
def typeName : Value → String
  | .none => "NoneType"
  | .bool _ => "bool"
  | .int _ => "int"
  | .float _ => "float"
  | .text _ => "str"
  | .list _ => "list"
  | .tuple _ => "tuple"
  | .dict _ => "dict"

mutual

/-- The type of the first part of a value that cannot be looked up in a set: the value itself, or
what is in tuples. -/
def unhashable? : Value → Option String
  | .list _ => some "list"
  | .dict _ => some "dict"
  | .tuple vs => unhashableAll? vs
  | _ => Option.none

/-- The type of the first such part of values. -/
def unhashableAll? : List Value → Option String
  | [] => Option.none
  | v :: vs => (unhashable? v).or (unhashableAll? vs)

end

mutual

/-- The value of a JSON value; lists become lists or tuples. -/
def ofJson (tuples : Bool) : Json → Value
  | .null => .none
  | .bool b => .bool b
  | .int n => .int n
  | .float x => .float x
  | .text s => .text s
  | .list vs => if tuples then .tuple (ofElements tuples vs) else .list (ofElements tuples vs)
  | .object fs => .dict (ofFields tuples fs)

/-- The values of the elements of a list. -/
def ofElements (tuples : Bool) : List Json → List Value
  | [] => []
  | v :: vs => ofJson tuples v :: ofElements tuples vs

/-- The entries of the fields of an object. -/
def ofFields (tuples : Bool) : List (String × Json) → List (String × Value)
  | [] => []
  | (k, v) :: fs => (k, ofJson tuples v) :: ofFields tuples fs

end

end Value

end Playground.Host
