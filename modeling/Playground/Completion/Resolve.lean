import Playground.Completion.Binding
import Playground.Reference.Basic

/-!
# What a dotted name stands for

The first word of a dotted name is looked up among the names that the text binds, then in the prelude
and then among the names of the language. A name that the text binds hides the others, even if all
that is known of it is that it is bound. The further words are attributes.
-/

namespace Playground

/-- What a text binds a name to, looked up by importing. -/
def Binding.resolve? (r : Reference) : Binding → Option Entity
  | .module name => r.importModule? name
  | .attribute owner name =>
    (r.importModule? owner).bind fun e =>
      r.attribute? e name <|> r.importModule? (owner ++ "." ++ name)
  | .own => none

namespace Reference

variable (r : Reference)

/-- What the first word of a dotted name stands for. -/
def root? (scope : List (String × Binding)) (name : String) : Option Entity :=
  match scope.lookup name with
  | some b => b.resolve? r
  | none => r.prelude.find? name <|> r.builtins.find? name <|> r.ambient.find? name

/-- What a dotted name stands for. -/
def resolve? (scope : List (String × Binding)) : List String → Option Entity
  | [] => none
  | name :: names =>
    names.foldl (fun found name => found.bind (r.attribute? · name)) (r.root? scope name)

end Reference

end Playground
