import Playground.Source.Parser.Basic

/-!
# Building trees

What the grammar needs to know about the trees that it builds: how to place a node, how to turn an
expression into a target, which expressions cannot be targets, and how expressions are called when
one is refused.
-/

namespace Playground.Source

namespace Parser

/-- Reads an expression of the form that `p` yields. -/
@[inline] def expr (p : Parser ExprForm) : Parser Expr := spanned p .mk

/-- Reads a statement of the form that `p` yields. -/
@[inline] def stmt (p : Parser StmtForm) : Parser Stmt := spanned p .mk

/-- Reads a name as an expression. -/
def nameExpr (usage : Usage) : Parser Expr := do
  let n ← name
  return .mk n.span (.name n.name usage)

/-- Stops with a fault from one span to another. -/
def refuseBetween {α : Type} (a b : Span) (cause : Cause) : Parser α :=
  refuse (a.to b) cause

end Parser

/-- An expression as a target, or as a value again. Only names, places and sequences of them are
changed; the fuel bounds how deeply they are nested. -/
def Expr.withUsage (usage : Usage) : Nat → Expr → Expr
  | 0, e => e
  | n + 1, .mk span form =>
    .mk span (
      match form with
      | .name id _ => .name id usage
      | .attribute v name _ => .attribute v name usage
      | .subscript v i _ => .subscript v i usage
      | .starred v _ => .starred (v.withUsage usage n) usage
      | .tuple es _ => .tuple (es.map (withUsage usage n)) usage
      | .list es _ => .list (es.map (withUsage usage n)) usage
      | other => other)

/-- An expression as a target of assignments. -/
def Expr.stored (e : Expr) : Expr :=
  e.withUsage .store Parser.maxDepth

/-- An expression as a target of deletion. -/
def Expr.deleted (e : Expr) : Expr :=
  e.withUsage .delete Parser.maxDepth

/-- What a kind of expression is called in faults. -/
def ExprForm.kindName : ExprForm → String
  | .attribute .. => "attribute"
  | .subscript .. => "subscript"
  | .starred .. => "starred"
  | .name .. => "name"
  | .list .. => "list"
  | .tuple .. => "tuple"
  | .lambda .. => "lambda"
  | .call .. => "function call"
  | .boolean .. | .binary .. | .unary .. => "expression"
  | .comprehension .generator .. => "generator expression"
  | .comprehension .list .. => "list comprehension"
  | .comprehension .set .. => "set comprehension"
  | .dictComprehension .. => "dict comprehension"
  | .yield .. | .yieldFrom .. => "yield expression"
  | .await .. => "await expression"
  | .dict .. => "dict literal"
  | .set .. => "set display"
  | .joined .. | .formatted .. => "f-string expression"
  | .literal .none => "None"
  | .literal (.bool true) => "True"
  | .literal (.bool false) => "False"
  | .literal .ellipsis => "ellipsis"
  | .literal _ => "literal"
  | .compare .. => "comparison"
  | .conditional .. => "conditional expression"
  | .named .. => "named expression"
  | .slice .. => "slice"

/-- What an expression is called in faults. -/
def Expr.kindName (e : Expr) : String :=
  e.form.kindName

/-- The places where targets are refused. -/
inductive TargetPlace where
  | assignment
  | deletion
  | loop
  deriving DecidableEq

/-- The first part of an expression that cannot be a target; the fuel bounds the nesting. -/
def Expr.invalidTarget? (place : TargetPlace) : Nat → Expr → Option Expr
  | 0, _ => none
  | n + 1, e =>
    match e.form with
    | .list es _ | .tuple es _ => es.findSome? (invalidTarget? place n)
    | .starred v _ => if place = .deletion then some e else v.invalidTarget? place n
    | .compare left ops _ =>
      if place = .loop then
        if ops.head? = some .isIn then left.invalidTarget? place n else none
      else some e
    | .name .. | .subscript .. | .attribute .. => none
    | _ => some e

namespace Parser

/-- Stops at the first part of an expression that cannot be a target; if there is none, the rule has
no answer. -/
def refuseTarget {α : Type} (place : TargetPlace) (e : Expr) : Parser α :=
  match e.invalidTarget? place maxDepth with
  | some part =>
    refuse part.span (
      match place with
      | .deletion => .cannotDelete part.kindName
      | _ => .cannotAssign part.kindName)
  | none => decline

end Parser

/-- The last expression of a comprehension clause: its last condition, or else its source. -/
def Clause.lastExpr (c : Clause) : Expr :=
  c.conditions.getLastD c.source

end Playground.Source
