import Playground.Decimal.Binary
import Playground.Run.State
import Playground.Text.Number
import Playground.Workspace.Refusal

/-!
# Timeout headers

A request may bring its own budgets, in milliseconds. The value of such a header is a decimal; what
stands after its point is cut off.
-/

namespace Playground

/-- A header of a request. -/
structure Header where
  name : String
  value : String
  deriving DecidableEq, Repr

/-- The value of the first header of a name, in letters of any case. -/
def headerValue? (headers : List Header) (name : String) : Option String :=
  (headers.find? fun h => h.name.toLower == name.toLower).map (·.value)

/-- A number of milliseconds from one to a maximum. -/
def milliseconds (name value : String) (maximum : Int) : Except Refusal Int :=
  match (Text.readFloat? value.toList).bind Decimal.truncate? with
  | none => .error (.badHeader name value)
  | some n => if n ≤ 0 ∨ n > maximum then .error (.headerOutOfRange name maximum) else .ok n

/-- The milliseconds of a header, or a default if it is missing. -/
def timeoutHeader (headers : List Header) (name : String) (default maximum : Int) :
    Except Refusal Int :=
  match headerValue? headers name with
  | none => .ok default
  | some value => milliseconds name value maximum

end Playground
