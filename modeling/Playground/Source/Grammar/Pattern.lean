import Playground.Source.Grammar.Expression

/-!
# The grammar of patterns

What a `case` can match: literals, names, values of attributes, sequences, mappings and classes.
-/

namespace Playground.Source.Grammar

open Playground.Source.Parser

variable (call : Reader)

/-- Reads a pattern whose parts `p` yields. -/
@[inline] def pat {α : Type} (p : Parser α) (f : Span → α → Pattern) : Parser Pattern := spanned p f

def matchStatement : Parser Stmt :=
  firstOf [
    stmt do
      let _ ← soft "match"
      let subject ← call .subject
      let _ ← op ":"
      let _ ← kind .newline
      let _ ← kind .indent
      let cases ← many1 (call .caseBlock)
      let _ ← kind .dedent
      return .matchStmt subject cases,
    mistake (call .badMatch)]

def subject : Parser Expr :=
  firstOf [
    expr do
      let a ← call .starNamedExpression
      let _ ← op ","
      let b ← maybe (call .starNamedExpressions)
      return .tuple (a :: b.getD []) .load,
    call .namedExpression]

def caseBlock : Parser Case :=
  firstOf [
    mistake (call .badCase),
    do
      let _ ← soft "case"
      let p ← call .patterns
      let g ← maybe (call .guard)
      let _ ← op ":"
      let b ← call .block
      return .mk p g b]

def guard : Parser Expr := do
  let _ ← kw "if"
  call .namedExpression

def patterns : Parser Pattern :=
  firstOf [pat (call .openSequencePattern) .sequence, call .pattern]

def pattern : Parser Pattern := firstOf [call .asPattern, call .orPattern]

def asPattern : Parser Pattern :=
  firstOf [
    pat
      (do
        let p ← call .orPattern
        let _ ← kw "as"
        return (p, ← call .captureTarget))
      fun span (p, n) => .bind span (some p) (some n.name),
    mistake (call .badAsPattern)]

def orPattern : Parser Pattern :=
  pat
    (nested do
      let first ← call .closedPattern
      let rest ← many do
        let _ ← op "|"
        call .closedPattern
      return first :: rest)
    fun span ps =>
      match ps with
      | [p] => p
      | ps => .anyOf span ps

def closedPattern : Parser Pattern :=
  firstOf [
    call .literalPattern, call .capturePattern, call .wildcardPattern, call .valuePattern,
    call .groupPattern, call .sequencePattern, call .mappingPattern, call .classPattern]

/-- A signed number that is not the first part of a complex one. -/
def soleNumber : Parser Expr := do
  let a ← call .signedNumber
  notAhead (choice [op "+", op "-"])
  return a

/-- The keywords that stand for values. -/
def singletons : List (String × Literal) :=
  [("None", .none), ("True", .bool true), ("False", .bool false)]

def literalPattern : Parser Pattern :=
  firstOf ([
    pat (soleNumber call) .value,
    pat (call .complexNumber) .value,
    pat (call .strings) .value] ++
    singletons.map fun (text, v) => pat (kw text) fun span _ => .singleton span v)

def literalKey : Parser Expr :=
  firstOf ([soleNumber call, call .complexNumber, call .strings] ++
    singletons.map fun (text, v) => constant text v)

def complexNumber : Parser Expr :=
  let sum (text : String) (o : BinaryOp) : Parser Expr := expr do
    let a ← call .signedReal
    let _ ← op text
    return .binary a o (← call .imaginaryNumber)
  firstOf [sum "+" .add, sum "-" .sub]

/-- A number with a minus in front. -/
def negative (number : Parser Expr) : Parser Expr :=
  expr do
    let _ ← op "-"
    return .unary .minus (← number)

def signedNumber : Parser Expr := firstOf [numberExpr, negative numberExpr]

def signedReal : Parser Expr := firstOf [call .realNumber, negative (call .realNumber)]

def realNumber : Parser Expr := do
  let e ← numberExpr
  match e.form with
  | .literal (.complex ..) => refuse e.span .realPartExpected
  | _ => return e

def imaginaryNumber : Parser Expr := do
  let e ← numberExpr
  match e.form with
  | .literal (.complex ..) => return e
  | _ => refuse e.span .imaginaryPartExpected

def capturePattern : Parser Pattern :=
  pat (call .captureTarget) fun span n => .bind span none (some n.name)

/-- What tells a captured name from other patterns. -/
def notName : Parser Unit := notAhead (choice [op ".", op "(", op "="])

def captureTarget : Parser Ident := do
  notAhead (soft "_")
  let n ← name
  notName
  return n

def wildcardPattern : Parser Pattern :=
  pat (soft "_") fun span _ => .bind span none none

def valuePattern : Parser Pattern :=
  pat
    (do
      let a ← call .patternAttr
      notName
      return a)
    .value

def patternAttr : Parser Expr :=
  expr do
    let a ← call .nameOrAttr
    let _ ← op "."
    return .attribute a (← name).name .load

def nameOrAttr : Parser Expr := firstOf [call .patternAttr, nameExpr .load]

def groupPattern : Parser Pattern := do
  let _ ← op "("
  let p ← call .pattern
  let _ ← op ")"
  return p

/-- A sequence between brackets. -/
def bracketed (opening closing : String) (items : Parser (List Pattern)) : Parser Pattern :=
  pat
    (do
      let _ ← op opening
      let ps ← maybe items
      let _ ← op closing
      return ps.getD [])
    .sequence

def sequencePattern : Parser Pattern :=
  firstOf [
    bracketed "[" "]" (call .maybeSequencePattern),
    bracketed "(" ")" (call .openSequencePattern)]

def openSequencePattern : Parser (List Pattern) := do
  let p ← call .maybeStarPattern
  let _ ← op ","
  let ps ← maybe (call .maybeSequencePattern)
  return p :: ps.getD []

def maybeSequencePattern : Parser (List Pattern) := do
  let ps ← commaSep (call .maybeStarPattern)
  let _ ← maybe (op ",")
  return ps

def maybeStarPattern : Parser Pattern := firstOf [call .starPattern, call .pattern]

def starPattern : Parser Pattern :=
  firstOf [
    pat
      (do
        let _ ← op "*"
        call .captureTarget)
      fun span n => .star span (some n.name),
    pat
      (do
        let _ ← op "*"
        call .wildcardPattern)
      fun span _ => .star span none]

/-- The end of a mapping pattern. -/
def mappingEnd : Parser Unit := do
  let _ ← maybe (op ",")
  let _ ← op "\x7d"
  return ()

def mappingPattern : Parser Pattern :=
  let build (span : Span) (items : List (Expr × Pattern)) (rest : Option Ident) : Pattern :=
    .mapping span (items.map Prod.fst) (items.map Prod.snd) (rest.map Ident.name)
  firstOf [
    pat
      (do
        let _ ← op "\x7b"
        op "\x7d")
      fun span _ => build span [] none,
    pat
      (do
        let _ ← op "\x7b"
        let rest ← call .doubleStarPattern
        mappingEnd
        return rest)
      fun span rest => build span [] (some rest),
    pat
      (do
        let _ ← op "\x7b"
        let items ← call .itemsPattern
        let _ ← op ","
        let rest ← call .doubleStarPattern
        mappingEnd
        return (items, rest))
      fun span (items, rest) => build span items (some rest),
    pat
      (do
        let _ ← op "\x7b"
        let items ← call .itemsPattern
        mappingEnd
        return items)
      fun span items => build span items none]

def itemsPattern : Parser (List (Expr × Pattern)) := commaSep (call .keyValuePattern)

def keyValuePattern : Parser (Expr × Pattern) := do
  let k ← choice [call .literalKey, call .patternAttr]
  let _ ← op ":"
  return (k, ← call .pattern)

def doubleStarPattern : Parser Ident := do
  let _ ← op "**"
  call .captureTarget

def classPattern : Parser Pattern :=
  let build (span : Span) (cls : Expr) (ps : List Pattern) (ks : List (Ident × Pattern)) :
      Pattern :=
    .classOf span cls ps (ks.map fun k => k.1.name) (ks.map Prod.snd)
  let close : Parser Unit := do
    let _ ← maybe (op ",")
    let _ ← op ")"
    return ()
  firstOf [
    pat
      (do
        let c ← call .nameOrAttr
        let _ ← op "("
        let _ ← op ")"
        return c)
      fun span c => build span c [] [],
    pat
      (do
        let c ← call .nameOrAttr
        let _ ← op "("
        let ps ← call .positionalPatterns
        close
        return (c, ps))
      fun span (c, ps) => build span c ps [],
    pat
      (do
        let c ← call .nameOrAttr
        let _ ← op "("
        let ks ← call .keywordPatterns
        close
        return (c, ks))
      fun span (c, ks) => build span c [] ks,
    pat
      (do
        let c ← call .nameOrAttr
        let _ ← op "("
        let ps ← call .positionalPatterns
        let _ ← op ","
        let ks ← call .keywordPatterns
        close
        return (c, ps, ks))
      fun span (c, ps, ks) => build span c ps ks,
    mistake (call .badClassPattern)]

def positionalPatterns : Parser (List Pattern) := commaSep (call .pattern)

def keywordPatterns : Parser (List (Ident × Pattern)) := commaSep (call .keywordPattern)

def keywordPattern : Parser (Ident × Pattern) := do
  let n ← name
  let _ ← op "="
  return (n, ← call .pattern)

end Playground.Source.Grammar
