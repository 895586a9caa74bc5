import Playground.Source.Grammar.Shape
import Playground.Source.Literal.Number
import Playground.Source.Parser.Strings

/-!
# The grammar of expressions

Operators from the loosest to the tightest, atoms, displays and comprehensions, calls and lambda
functions. Every rule is given a way to read the others.
-/

namespace Playground.Source.Grammar

open Playground.Source.Parser

variable (call : Reader)

/-! ## Lists of expressions and conditions -/

/-- Items separated by commas, with an optional comma at the end: a tuple unless it is one item
without a comma. -/
def tupleOr (item : Parser Expr) : Parser Expr :=
  firstOf [
    expr do
      let a ← item
      let b ← many1 do
        let _ ← op ","
        item
      let _ ← maybe (op ",")
      return .tuple (a :: b) .load,
    expr do
      let a ← item
      let _ ← op ","
      return .tuple [a] .load,
    item]

def expressions : Parser Expr := tupleOr (call .expression)

def starExpressions : Parser Expr := tupleOr (call .starExpression)

def conditional : Parser Expr :=
  expr do
    let a ← call .disjunction
    let _ ← kw "if"
    let b ← call .disjunction
    let _ ← kw "else"
    let c ← call .expression
    return .conditional b a c

def expression : Parser Expr :=
  firstOf [
    mistake (call .badExpression),
    mistake (call .badLegacyCall),
    conditional call,
    call .disjunction,
    call .lambda]

/-- An expression in which no mistakes are looked for. -/
def plainExpression : Parser Expr :=
  trusting (firstOf [conditional call, call .disjunction, call .lambda])

def yieldExpr : Parser Expr :=
  firstOf [
    expr do
      let _ ← kw "yield"
      let _ ← kw "from"
      return .yieldFrom (← call .expression),
    expr do
      let _ ← kw "yield"
      return .yield (← maybe (call .starExpressions))]

/-- An unpacked sequence. -/
def starred (value : Parser Expr) : Parser Expr :=
  expr do
    let _ ← op "*"
    return .starred (← value) .load

def starExpression : Parser Expr :=
  firstOf [starred (call .bitwiseOr), call .expression]

def starNamedExpressions : Parser (List Expr) := do
  let es ← commaSep (call .starNamedExpression)
  let _ ← maybe (op ",")
  return es

def starNamedExpression : Parser Expr :=
  firstOf [starred (call .bitwiseOr), call .namedExpression]

def assignmentExpression : Parser Expr :=
  firstOf [
    expr do
      let a ← name
      let _ ← op ":="
      committed do
        let b ← call .expression
        return .named (.mk a.span (.name a.name .store)) b]

/-- An expression that no assignment follows. -/
def unassigned : Parser Expr := do
  let e ← call .expression
  notAhead (op ":=")
  return e

def namedExpression : Parser Expr :=
  firstOf [
    call .assignmentExpression,
    mistake (call .badNamedExpression),
    unassigned call]

/-! ## Operators -/

/-- Operands joined by a word. -/
def boolean (word : String) (isOr : Bool) (operand : Parser Expr) : Parser Expr :=
  firstOf [
    expr do
      let a ← operand
      let b ← many1 do
        let _ ← kw word
        operand
      return .boolean isOr (a :: b),
    operand]

def inversion : Parser Expr :=
  firstOf [
    expr do
      let _ ← kw "not"
      return .unary .not (← call .inversion),
    call .comparison]

def comparison : Parser Expr :=
  firstOf [
    expr do
      let a ← call .bitwiseOr
      let b ← many1 (call .comparisonPair)
      return .compare a (b.map Prod.fst) (b.map Prod.snd),
    call .bitwiseOr]

def comparisonPair : Parser (CompareOp × Expr) :=
  let symbol (text : String) (o : CompareOp) : Parser (CompareOp × Expr) := nested do
    let _ ← op text
    return (o, ← call .bitwiseOr)
  let word (texts : List String) (o : CompareOp) : Parser (CompareOp × Expr) := nested do
    texts.forM fun t => discard (kw t)
    return (o, ← call .bitwiseOr)
  firstOf [
    symbol "==" .eq, symbol "!=" .notEq, symbol "<=" .ltE, symbol "<" .lt, symbol ">=" .gtE,
    symbol ">" .gt, word ["not", "in"] .isNotIn, word ["in"] .isIn, word ["is", "not"] .isNotSame,
    word ["is"] .isSame]

/-- Operands joined by operators that group to the left. -/
def leftBinary (self operand : Parser Expr) (ops : List (String × BinaryOp)) : Parser Expr :=
  firstOf (ops.map (fun (text, o) => expr do
    let a ← self
    let _ ← op text
    return .binary a o (← operand)) ++ [operand])

def factor : Parser Expr :=
  let before (text : String) (o : UnaryOp) : Parser Expr := expr do
    let _ ← op text
    return .unary o (← call .factor)
  firstOf [before "+" .plus, before "-" .minus, before "~" .invert, call .power]

def power : Parser Expr :=
  firstOf [
    expr do
      let a ← call .awaitPrimary
      let _ ← op "**"
      return .binary a .pow (← call .factor),
    call .awaitPrimary]

def awaitPrimary : Parser Expr :=
  firstOf [
    expr do
      let _ ← kw "await"
      return .await (← call .primary),
    call .primary]

/-! ## Primaries -/

/-- The arguments in parentheses, if any. -/
def callForm (f : Expr) : Parser ExprForm := do
  let _ ← op "("
  let a ← maybe (call .arguments)
  let _ ← op ")"
  return .call f ((a.map Arguments.args).getD []) ((a.map Arguments.keywords).getD [])

def primary : Parser Expr :=
  firstOf [
    expr do
      let a ← call .primary
      let _ ← op "."
      return .attribute a (← name).name .load,
    expr do
      let a ← call .primary
      return .call a [← call .generator] [],
    expr do
      let a ← call .primary
      callForm call a,
    expr do
      let a ← call .primary
      let _ ← op "["
      let b ← call .slices
      let _ ← op "]"
      return .subscript a b .load,
    call .atom]

def slices : Parser Expr :=
  firstOf [
    do
      let a ← call .slice
      notAhead (op ",")
      return a,
    expr do
      let a ← commaSep (choice [call .slice, call .starredExpression])
      let _ ← maybe (op ",")
      return .tuple a .load]

def slice : Parser Expr :=
  firstOf [
    expr do
      let a ← maybe (call .expression)
      let _ ← op ":"
      let b ← maybe (call .expression)
      let c ← maybe (nested do
        let _ ← op ":"
        maybe (call .expression))
      return .slice a b (c.getD none),
    call .namedExpression]

/-- The value of a number token. -/
def numberExpr : Parser Expr := do
  let t ← kind .number
  match Literal.ofNumeral t.text with
  | .ok v => return .mk t.span (.literal v)
  | .error digits =>
    let unplaced : Span := { t.span with col := -1, endCol := -1 }
    refuse unplaced (.hugeInteger digits)

/-- A keyword that stands for a value. -/
def constant (text : String) (v : Literal) : Parser Expr :=
  expr do
    let _ ← kw text
    return .literal v

def atom : Parser Expr :=
  firstOf [
    nameExpr .load,
    constant "True" (.bool true),
    constant "False" (.bool false),
    constant "None" .none,
    do
      ahead (kind .string)
      call .strings,
    numberExpr,
    do
      ahead (op "(")
      choice [call .tuple, call .group, call .generator],
    do
      ahead (op "[")
      choice [call .list, call .listComprehension],
    do
      ahead (op "\x7b")
      choice [call .dict, call .set, call .dictComprehension, call .setComprehension],
    expr do
      let _ ← op "..."
      return .literal .ellipsis]

def group : Parser Expr :=
  firstOf [
    do
      let _ ← op "("
      let a ← choice [call .yieldExpr, call .namedExpression]
      let _ ← op ")"
      return a,
    mistake (call .badGroup)]

/-! ## Displays and comprehensions -/

def list : Parser Expr :=
  expr do
    let _ ← op "["
    let a ← maybe (call .starNamedExpressions)
    let _ ← op "]"
    return .list (a.getD []) .load

def tuple : Parser Expr :=
  expr do
    let _ ← op "("
    let a ← maybe (nested do
      let y ← call .starNamedExpression
      let _ ← op ","
      let z ← maybe (call .starNamedExpressions)
      return y :: z.getD [])
    let _ ← op ")"
    return .tuple (a.getD []) .load

def set : Parser Expr :=
  expr do
    let _ ← op "\x7b"
    let a ← call .starNamedExpressions
    let _ ← op "\x7d"
    return .set a

def dict : Parser Expr :=
  firstOf [
    expr do
      let _ ← op "\x7b"
      let a ← maybe (call .dictItems)
      let _ ← op "\x7d"
      return .dict (a.getD []),
    mistake do
      let _ ← op "\x7b"
      call .badDictItems
      op "\x7d"]

def dictItems : Parser (List (Option Expr × Expr)) := do
  let a ← commaSep (call .dictItem)
  let _ ← maybe (op ",")
  return a

def dictItem : Parser (Option Expr × Expr) :=
  firstOf [
    do
      let _ ← op "**"
      return (none, ← call .bitwiseOr),
    do
      let (k, v) ← call .keyValue
      return (some k, v)]

def keyValue : Parser (Expr × Expr) := do
  let a ← call .expression
  let _ ← op ":"
  return (a, ← call .expression)

def forIfClauses : Parser (List Clause) := many1 (call .forIfClause)

def forIfClause : Parser Clause :=
  let clause (isAsync : Bool) : Parser Clause := do
    if isAsync then discard (kw "async")
    let _ ← kw "for"
    let a ← call .starTargets
    let _ ← kw "in"
    committed do
      let b ← call .disjunction
      let c ← many do
        let _ ← kw "if"
        call .disjunction
      return .mk a b c isAsync
  firstOf [clause true, clause false, mistake (call .badForTarget)]

/-- A comprehension between two brackets. -/
def comprehension (kind : ComprehensionKind) (opening closing : String) (element : Parser Expr) :
    Parser Expr :=
  firstOf [
    expr do
      let _ ← op opening
      let a ← element
      let b ← call .forIfClauses
      let _ ← op closing
      return .comprehension kind a b,
    mistake (call .badComprehension)]

def listComprehension : Parser Expr := comprehension call .list "[" "]" (call .namedExpression)

def setComprehension : Parser Expr :=
  comprehension call .set "\x7b" "\x7d" (call .namedExpression)

def generator : Parser Expr :=
  comprehension call .generator "(" ")" (choice [call .assignmentExpression, unassigned call])

def dictComprehension : Parser Expr :=
  firstOf [
    expr do
      let _ ← op "\x7b"
      let (k, v) ← call .keyValue
      let b ← call .forIfClauses
      let _ ← op "\x7d"
      return .dictComprehension k v b,
    mistake (call .badDictComprehension)]

/-! ## Arguments -/

def arguments : Parser Arguments :=
  firstOf [
    do
      let a ← call .args
      let _ ← maybe (op ",")
      ahead (op ")")
      return a,
    mistake (call .badArguments)]

/-- An argument given by position that no `=` follows. -/
def positionalArgument : Parser Expr :=
  choice [
    call .starredExpression,
    do
      let e ← choice [call .assignmentExpression, unassigned call]
      notAhead (op "=")
      return e]

/-- The unpacked sequences among late arguments. -/
def lateStarred (late : List LateArgument) : List Expr :=
  late.filterMap fun
    | .starred e => some e
    | .keyword _ => none

/-- The keywords among late arguments. -/
def lateKeywords (late : List LateArgument) : List Keyword :=
  late.filterMap fun
    | .keyword k => some k
    | .starred _ => none

def args : Parser Arguments :=
  firstOf [
    spanned
      (do
        let a ← commaSep (positionalArgument call)
        let b ← maybe (nested do
          let _ ← op ","
          call .lateArguments)
        return (a, b.getD []))
      fun span (a, late) => ⟨span, a ++ lateStarred late, lateKeywords late⟩,
    spanned (call .lateArguments)
      fun span late => ⟨span, lateStarred late, lateKeywords late⟩]

def lateArguments : Parser (List LateArgument) :=
  firstOf [
    do
      let a ← commaSep (call .lateOrStarred)
      let _ ← op ","
      let b ← commaSep (call .lateOrDoubleStarred)
      return a ++ b,
    commaSep (call .lateOrStarred),
    commaSep (call .lateOrDoubleStarred)]

def starredExpression : Parser Expr :=
  firstOf [
    expr do
      let _ ← op "*"
      return .starred (← call .expression) .load,
    do
      let _ ← op "*"
      refuseLast .nothingToUnpack]

/-- A keyword argument. -/
def keywordArgument : Parser LateArgument :=
  spanned
    (do
      let a ← name
      let _ ← op "="
      return (a.name, ← call .expression))
    fun span (n, e) => .keyword (.mk span (some n) e)

def lateOrStarred : Parser LateArgument :=
  firstOf [
    mistake (call .badLateArgument),
    keywordArgument call,
    do return .starred (← call .starredExpression)]

def lateOrDoubleStarred : Parser LateArgument :=
  firstOf [
    mistake (call .badLateArgument),
    keywordArgument call,
    spanned
      (do
        let _ ← op "**"
        call .expression)
      fun span e => .keyword (.mk span none e)]

/-! ## Lambda functions -/

def lambda : Parser Expr :=
  expr do
    let _ ← kw "lambda"
    let a ← maybe (call .lambdaParams)
    let _ ← op ":"
    return .lambda (a.getD .empty) (← call .expression)

end Playground.Source.Grammar
