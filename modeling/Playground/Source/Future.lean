import Playground.Source.Misuse

/-!
# Future features

Statements at the start of a module that ask for features of a later language. Only literals may
stand before them. The rest of the line on which the last one stands is looked at here; one on a
later line is found when the module is compiled.
-/

namespace Playground.Source

/-- The future features of a module. -/
structure Future where
  /-- Annotations are not evaluated. -/
  annotations : Bool
  /-- The line of the last statement that asks for features, or `-1`. -/
  line : Int
  deriving DecidableEq, Repr, Inhabited

namespace Future

/-- The name of the module that future features are imported from. -/
def moduleName : String := "__future__"

/-- The features that are known. -/
def known : List String :=
  ["nested_scopes", "generators", "division", "absolute_import", "with_statement",
    "print_function", "unicode_literals", "barry_as_FLUFL", "generator_stop", "annotations"]

/-- A fault that is reported at one place; the column is counted in bytes. -/
def faultAt (m : Misuse) (line : Nat) (offset : Int) : Stop :=
  .fault ⟨.syntaxError, some m.message, some line, some offset, some line, none⟩

/-- Adds a feature that a statement asks for. -/
def add (f : Future) (span : Span) (feature : String) : Except Stop Future :=
  if feature == "annotations" then .ok { f with annotations := true }
  else if known.contains feature then .ok f
  else if feature == "braces" then .error (faultAt .braces span.line (span.col + 1))
  else .error (faultAt (.unknownFuture feature) span.line (span.col + 1))

/-- Whether a statement asks for future features, and for which. -/
def asked? (s : Stmt) : Option (List Alias) :=
  match s.form with
  | .importFrom module names _ => if module == some moduleName then some names else none
  | _ => none

/-- Whether a statement is a literal. -/
def isLiteral (s : Stmt) : Bool :=
  match s.form with
  | .expr e => match e.form with | .literal _ => true | _ => false
  | _ => false

/-- Reads the statements of a module. Once `closed`, no more features can be asked for; the
statement before stood on `line`. -/
def readFrom (f : Future) (closed : Bool) (line : Nat) : List Stmt → Except Stop Future
  | [] => .ok f
  | s :: rest =>
    if closed && s.span.line > line then .ok f
    else
      match asked? s with
      | some names =>
        if closed then .error (faultAt .lateFuture s.span.line s.span.col)
        else do
          let f ← names.foldlM (fun f a => f.add s.span a.name) f
          readFrom { f with line := s.span.line } false s.span.line rest
      | none => readFrom f (closed || !isLiteral s) s.span.line rest

/-- The future features that a module asks for. -/
def read (m : Module) : Except Stop Future :=
  readFrom ⟨false, -1⟩ false 0 m

end Future

end Playground.Source
