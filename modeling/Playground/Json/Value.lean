/-!
# JSON values

Integers have any size and are kept apart from decimals. The fields of an object stand in the order
in which they were written; where a name occurs more than once, the last one counts.
-/

namespace Playground

/-- A JSON value. -/
inductive Json where
  | null
  | bool (value : Bool)
  | int (value : Int)
  | float (value : Float)
  | text (value : String)
  | list (elements : List Json)
  | object (fields : List (String × Json))
  deriving Inhabited

namespace Json

/-- The last field of a name. -/
def field? (fields : List (String × Json)) (name : String) : Option Json :=
  (fields.reverse.find? fun f => f.1 == name).map (·.2)

end Json

end Playground
