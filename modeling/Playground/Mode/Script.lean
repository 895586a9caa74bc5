import Playground.Mode.Body

/-!
# Scripts

If a script ends with an expression, its value is what the script returns, as at an interactive
prompt: the last statement is changed to keep the value under a name that the host looks up.
-/

namespace Playground

/-- The name that the value of a script is kept under. -/
def returnValueName : String := "__return_value__"

/-- The last statement of a script. -/
def TopStatement.keepingValue {ε σ : Type} (s : TopStatement ε σ) : TopStatement ε σ :=
  match s.form with
  | .expression _ value => ⟨s.place, .store returnValueName value⟩
  | _ => s

/-- The body of a module that keeps the value of its last statement. -/
def keepLastValue {ε σ : Type} : List (TopStatement ε σ) → List (TopStatement ε σ)
  | [] => []
  | [s] => [s.keepingValue]
  | s :: rest => s :: keepLastValue rest

/-- The body of a module as it is compiled. -/
def Mode.transform {ε σ : Type} : Mode → List (TopStatement ε σ) → List (TopStatement ε σ)
  | .script, body => keepLastValue body
  | .program, body => body

end Playground
