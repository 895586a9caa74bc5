import Playground.Mode.Basic
import Playground.Source.Tree

/-!
# Module bodies

The statements at the top of a module, as far as the modes tell them apart. `ε` is the type of
expressions, and `σ` is the type of what all other statements do.
-/

namespace Playground

/-- Where a statement stands: lines from one, columns in bytes from zero. The end may be unknown. -/
structure Place where
  line : Int
  column : Int
  endLine : Option Int
  endColumn : Option Int
  deriving DecidableEq, Repr, Inhabited

/-- A span of a syntax tree. -/
def Place.ofSpan (s : Source.Span) : Place :=
  ⟨s.line, s.col, some s.endLine, some s.endCol⟩

/-- What a call without arguments has to do with the parameters of a function: how many can be given
by position, how many of these have defaults, and which of the others do. -/
structure ParamShape where
  positional : Nat
  defaults : Nat
  keywordDefaults : List Bool
  deriving DecidableEq, Repr, Inhabited

namespace ParamShape

/-- The shape of parameters. -/
def ofParams (ps : Source.Params) : ParamShape :=
  ⟨ps.positionalOnly.length + ps.positional.length, ps.defaults.length,
    ps.keywordDefaults.map Option.isSome⟩

/-- How many parameters a call without arguments leaves unbound. -/
def required (s : ParamShape) : Int :=
  s.positional - s.defaults + s.keywordDefaults.countP (!·)

end ParamShape

/-- What a statement is. -/
inductive TopForm (ε σ : Type) where
  | function (name : String) (params : ParamShape) (statement : σ)
  /-- Any other declaration. -/
  | declaration (statement : σ)
  /-- An expression, which is a text if `isText`. -/
  | expression (isText : Bool) (value : ε)
  /-- Keeps the value of an expression under a name. -/
  | store (target : String) (value : ε)
  | other (statement : σ)

/-- A statement at the top of a module. -/
structure TopStatement (ε σ : Type) where
  place : Place
  form : TopForm ε σ

namespace TopForm

/-- What a statement of a syntax tree is: imports, definitions, plain and annotated assignments,
conditions and handlers of exceptions declare things. -/
def ofStatement (form : Source.StmtForm) : TopForm Source.Expr Source.StmtForm :=
  match form with
  | .functionDef _ name params .. => .function name (.ofParams params) form
  | .classDef .. | .assign .. | .annAssign .. | .ifStmt .. | .tryStmt .. | .importNames ..
  | .importFrom .. => .declaration form
  | .expr value =>
    .expression (match value.form with | .literal (.text ..) => true | _ => false) value
  | _ => .other form

end TopForm

/-- A statement of a syntax tree. -/
def TopStatement.ofStatement (s : Source.Stmt) : TopStatement Source.Expr Source.StmtForm :=
  ⟨.ofSpan s.span, .ofStatement s.form⟩

end Playground
