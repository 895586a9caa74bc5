import Playground.Completion.Suggest
import Playground.Source.Definition

/-!
# Descriptions

What is known about the dotted name at a position, which may be anywhere in its last word. A single
word that the text defines is described by its definition. Any other name is described by what it
stands for.
-/

namespace Playground

/-- The rest of the word at a position of a text. -/
def Text.restOfWord (position : Int) (text : List Char) : List Char :=
  (text.drop position.toNat).takeWhile Text.isWord

/-- The dotted name at a position of a text. -/
def Chain.at? (text : List Char) (position : Int) : Option Chain :=
  Chain.before? (Text.before position text ++ Text.restOfWord position text)

/-- The description of a function or class that a text defines. -/
def Source.Definition.describe (d : Source.Definition) : Except Breakdown Introspection :=
  match d.params with
  | none => .ok ⟨d.name, "class", none, d.documentation⟩
  | some params =>
    match Source.Printer.paramsText params with
    | none => .error .backslashInField
    | some text => .ok ⟨d.name, "function", some ("(" ++ text ++ ")"), d.documentation⟩

namespace Reference

variable (r : Reference)

/-- The description of something under a dotted name. -/
def describe (owner : Option Entity) (name : String) (e : Entity) : Introspection :=
  let lines := r.documentation e
  ⟨name, e.kind owner, r.signature e,
    if lines.isEmpty then none else some ("\n".intercalate lines)⟩

/-- The description of what a dotted name stands for. -/
def describeName? (scope : List (String × Binding)) (words : List String) : Option Introspection :=
  (r.resolve? scope words).map <|
    r.describe (r.resolve? scope words.dropLast) (".".intercalate words)

/-- What is known about the name at a position of a text. -/
def inspect (text : String) (position : Int) : Except Breakdown (Option Introspection) := do
  match (Chain.at? text.toList position).map Chain.words with
  | none | some [] => return none
  | some words =>
    let defined ←
      match words with
      | [name] => Source.definition? text name
      | _ => pure none
    match defined with
    | some d => return some (← d.describe)
    | none => return r.describeName? (Binding.ofText text.toList) words

end Reference

end Playground
