import Playground.Mode.Script
import Playground.Reference.Prelude

/-!
# Running module bodies

What it is for the body of a module to run, whatever its expressions and statements do. They run in
order, in one state: what the names of the module are bound to, and the world, which is everything
else. Each of them goes on or ends the run, with an exception or by leaving the program; an
expression that stands alone is evaluated, and its value is dropped.

The host of a script looks up one name after the run, in the same namespace.
-/

namespace Playground

/-- What the names of a module are bound to. -/
abbrev Names (ν : Type) := String → Option ν

/-- Binds a name. -/
def Names.bind {ν : Type} (names : Names ν) (name : String) (value : ν) : Names ν :=
  fun other => if other = name then some value else names other

/-- The state of a run. -/
structure ModuleState (ν ω : Type) where
  names : Names ν
  world : ω

/-- What running something comes to: its effects in order, the state after them, and its result, or
the cause that ended the run. -/
structure Ran (η ρ κ α : Type) where
  effects : List η
  state : ρ
  result : Except κ α

namespace Ran

variable {η ρ κ α β : Type}

/-- A run without effects. -/
def done (value : α) (state : ρ) : Ran η ρ κ α :=
  ⟨[], state, .ok value⟩

/-- Goes on with something else, unless the run has ended. -/
def andThen (r : Ran η ρ κ α) (next : α → ρ → Ran η ρ κ β) : Ran η ρ κ β :=
  match r.result with
  | .error cause => ⟨r.effects, r.state, .error cause⟩
  | .ok value =>
    let later := next value r.state
    { later with effects := r.effects ++ later.effects }

end Ran

/-- What expressions and statements do. -/
structure Meaning (ε σ ν ω η κ : Type) where
  evaluate : ε → ModuleState ν ω → Ran η (ModuleState ν ω) κ ν
  execute : σ → ModuleState ν ω → Ran η (ModuleState ν ω) κ Unit

/-- The name of the documentation of a module. -/
def documentationName : String := "__doc__"

/-- The first statement of a module: a text is kept as the documentation of the module. -/
def TopStatement.documenting {ε σ : Type} (s : TopStatement ε σ) : TopStatement ε σ :=
  match s.form with
  | .expression true value => ⟨s.place, .store documentationName value⟩
  | _ => s

/-- The body of a module that keeps its documentation. -/
def documented {ε σ : Type} : List (TopStatement ε σ) → List (TopStatement ε σ)
  | [] => []
  | s :: rest => s.documenting :: rest

namespace Meaning

variable {ε σ ν ω η κ : Type} (m : Meaning ε σ ν ω η κ)

/-- Runs a statement. -/
def runForm (form : TopForm ε σ) (state : ModuleState ν ω) : Ran η (ModuleState ν ω) κ Unit :=
  match form with
  | .function _ _ statement | .declaration statement | .other statement =>
    m.execute statement state
  | .expression _ value => (m.evaluate value state).andThen fun _ state => .done () state
  | .store target value =>
    (m.evaluate value state).andThen fun v state =>
      .done () { state with names := state.names.bind target v }

/-- Runs statements in order. -/
def runBody (state : ModuleState ν ω) :
    List (TopStatement ε σ) → Ran η (ModuleState ν ω) κ Unit
  | [] => .done () state
  | s :: rest => (m.runForm s.form state).andThen fun _ state => runBody state rest

/-- Runs a module. -/
def runModule (body : List (TopStatement ε σ)) (state : ModuleState ν ω) :
    Ran η (ModuleState ν ω) κ Unit :=
  m.runBody state (documented body)

end Meaning

/-- The names that the host of a program binds before the program runs. -/
def hostNames : List String :=
  ["__name__", "__file__", "__builtins__"] ++ Reference.preludeMembers.map Prod.fst

/-- The state in which a program begins to run. -/
def ModuleState.ofHost {ν ω : Type} (value : String → ν) (world : ω) : ModuleState ν ω where
  names name := if name ∈ hostNames then some (value name) else none
  world := world

/-- What the host of a script finds under the name that it looks up, if the run has reached its
end. -/
def Ran.keptValue? {ν ω η κ : Type} (r : Ran η (ModuleState ν ω) κ Unit) : Option ν :=
  match r.result with
  | .ok _ => r.state.names returnValueName
  | .error _ => none

end Playground
