import Playground.Source.Check.Statement
import Playground.Source.Parse
import Playground.Toolchain.FrontEnd

/-!
# The front end of the language

A text is read into a tree, which must not be nested too deeply. Code is generated from a tree in
four steps, each of which may find a fault: the future features are read, literals are folded, the
names are resolved, and the statements are compiled.
-/

namespace Playground.Source

/-- The statement of a tree that a statement of a module body stands for. -/
def ofTopStatement (s : TopStatement Expr StmtForm) : Stmt :=
  let span : Span := ⟨s.place.line.toNat, s.place.column,
    (s.place.endLine.getD s.place.line).toNat, s.place.endColumn.getD s.place.column⟩
  .mk span <|
    match s.form with
    | .function _ _ form | .declaration form | .other form => form
    | .expression _ value => .expr value
    | .store target value => .assign [.mk span (.name target .store)] value

/-- Why a front end does not come to an end if parsing does not. -/
def Stop.rejection (cause : Breakdown) : Stop → Rejection
  | .fault f => .fault f
  | .tooDeep => .breakdown cause

/-- Reads a text into a tree. -/
def readModule (text : String) : FrontEndStep Module :=
  match parseModule text with
  | (.error e, ws) => (.error (e.rejection .deepText), ws.toList)
  | (.ok m, ws) =>
    match foldModule true m with
    | .error e => (.error (e.rejection .deepTree), ws.toList)
    | .ok _ => (.ok m, ws.toList)

/-- Reads a text. -/
def readText (text : String) : FrontEndStep (List (TopStatement Expr StmtForm)) :=
  let (result, ws) := readModule text
  (result.map fun m => m.map TopStatement.ofStatement, ws)

/-- Generates code for a module. -/
def generateModule (mode : Mode) (m : Module) : Except Stop Unit × Array SourceWarning :=
  let prepared : Except Stop (CheckSetting × Module) := do
    let future ← Future.read m
    let m ← foldModule (!future.annotations) m
    let scope ← Scope.ofModule maxNesting future.annotations m
    return (⟨future, mode = .script, scope.flatten⟩, m)
  match prepared with
  | .error e => (.error e, #[])
  | .ok (setting, m) => Check.module setting m

/-- The front end of the language. -/
def frontEnd : FrontEnd Expr StmtForm where
  read := readText
  generate mode body :=
    let (result, ws) := generateModule mode (body.map ofTopStatement)
    (result.mapError (Stop.rejection .deepTree), ws.toList)

end Playground.Source
