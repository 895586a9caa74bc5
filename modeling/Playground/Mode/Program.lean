import Playground.Diagnostic.Basic
import Playground.Mode.Body
import Playground.Text.LineTable
import Playground.Text.Word

/-!
# Programs

The body of a program declares things only, apart from a text at its start, and has a function for
the host to call. Of several functions with that name the last one counts, and it must be callable
without arguments.
-/

namespace Playground.ProgramCheck

open Text

variable {ε σ : Type}

/-- The name of the entry point. -/
def entryPoint : String := "main"

/-- Whether a statement declares something. -/
def isDeclaration : TopForm ε σ → Bool
  | .function .. | .declaration _ | .store .. => true
  | .expression .. | .other _ => false

/-- Whether a statement documents the module if it is the first one. -/
def isDocumentation : TopForm ε σ → Bool
  | .expression isText _ => isText
  | _ => false

/-- The part of the text where a statement stands. -/
def spanOf (t : LineTable) (p : Place) : Nat × Nat :=
  let start := t.byteOffset p.line p.column
  let endLine :=
    match p.endLine with
    | none | some 0 => p.line
    | some line => line
  match p.endColumn with
  | none => (start, start)
  | some column => (start, max start (t.byteOffset endLine column))

/-- What follows a word and the white space after it. -/
def afterKeyword? (word text : List Char) : Option (List Char) :=
  if word.isPrefixOf text then
    let rest := text.drop word.length
    let next := rest.dropWhile isBlank
    if next.length < rest.length then some next else none
  else none

/-- The length of the head of a function definition that a text starts with: its keywords and the
name of the entry point. -/
def headLength (text : List Char) : Nat :=
  let definition := (afterKeyword? "async".toList text).getD text
  match afterKeyword? "def".toList definition with
  | none => 0
  | some name =>
    let rest := name.drop entryPoint.length
    if entryPoint.toList.isPrefixOf name && !(rest.head?.any isWord) then text.length - rest.length
    else 0

/-- The part of the text where the head of a function definition stands. A definition with
decorators starts after them. -/
def headSpan (t : LineTable) (p : Place) : Nat × Nat :=
  let start := t.byteOffset p.line p.column
  let column := start - t.offset p.line 0
  (start, start + headLength ((t.lineText p.line).drop column))

/-- Reports a statement that is no declaration. -/
def misplaced (t : LineTable) (s : TopStatement ε σ) : Report :=
  let (start, stop) := spanOf t s.place
  .placedError "PY5002"
    "Only declarations are allowed at program scope; move statements into main()" start stop

/-- The statements that are no declarations; `first` at the start of the module. -/
def offending : Bool → List (TopStatement ε σ) → List (TopStatement ε σ)
  | _, [] => []
  | first, s :: rest =>
    if isDeclaration s.form || (first && isDocumentation s.form) then offending false rest
    else s :: offending false rest

/-- The functions that could be the entry point, with their places. -/
def entries (body : List (TopStatement ε σ)) : List (Place × ParamShape) :=
  body.filterMap fun s =>
    match s.form with
    | .function name params _ => if name == entryPoint then some (s.place, params) else none
    | _ => none

/-- Reports what is wrong with the entry point. -/
def entryReports (t : LineTable) (body : List (TopStatement ε σ)) : List Report :=
  match (entries body).getLast? with
  | none =>
    [.unplacedError "PY5001"
      s!"Program does not contain a '{entryPoint}' function suitable for an entry point"]
  | some (place, params) =>
    if params.required = 0 then []
    else
      let (start, stop) := headSpan t place
      [.placedError "PY5001"
        s!"'{entryPoint}' must be callable without arguments to be used as an entry point"
        start stop]

/-- Reports what is wrong with the body of a program. -/
def reports (t : LineTable) (body : List (TopStatement ε σ)) : List Report :=
  (offending true body).map (misplaced t) ++ entryReports t body

end Playground.ProgramCheck

namespace Playground

/-- Reports what keeps the body of a module from being compiled in a mode. -/
def Mode.check {ε σ : Type} (m : Mode) (t : Text.LineTable) (body : List (TopStatement ε σ)) :
    List Report :=
  match m with
  | .script => []
  | .program => ProgramCheck.reports t body

end Playground
