import Playground.Source.Printer.Basic

/-!
# The text of an expression

The printer goes down the tree with the level that the place of an expression asks for, and with the
knowledge whether it is inside a replacement field, where backslashes have to be spared.
-/

namespace Playground.Source.Printer

mutual

/-- The text of an expression. -/
def expr (sparing : Bool) (level : Level) : Expr → Option String
  | .mk _ form => exprForm sparing level form

/-- The text of a form of expression. -/
def exprForm (sparing : Bool) (level : Level) : ExprForm → Option String
  | .boolean isOr operands => do
    let own := if isOr then Level.or else Level.and
    let texts ← tightening sparing own operands
    return parenthesized (own < level) ((if isOr then " or " else " and ").intercalate texts)
  | .named target value => do
    let target ← expr sparing .atom target
    let value ← expr sparing .atom value
    return parenthesized (Level.named < level) (target ++ " := " ++ value)
  | .binary left op right => do
    let (before, after) := operandLevels op
    let left ← expr sparing before left
    let right ← expr sparing after right
    return parenthesized (binaryLevel op < level) (left ++ " " ++ binaryText op ++ " " ++ right)
  | .unary op operand => do
    let (text, own) := unaryText op
    let operand ← expr sparing own operand
    return parenthesized (own < level) (text ++ operand)
  | .lambda ps body => do
    let ps ← params sparing ps
    let body ← expr sparing .test body
    let gap := if ps.isEmpty then "" else " "
    return parenthesized (Level.test < level) ("lambda" ++ gap ++ ps ++ ": " ++ body)
  | .conditional test body orElse => do
    let body ← expr sparing Level.test.next body
    let test ← expr sparing Level.test.next test
    let orElse ← expr sparing .test orElse
    return parenthesized (Level.test < level) (body ++ " if " ++ test ++ " else " ++ orElse)
  | .dict items => do
    return braced (listed (← dictItems sparing items))
  | .set elements => do
    let texts ← exprs sparing .test elements
    return braced (if texts.isEmpty then "*()" else listed texts)
  | .comprehension kind element comprehended => do
    let element ← expr sparing .test element
    let text := element ++ (← clauses sparing comprehended)
    return match kind with
      | .list => "[" ++ text ++ "]"
      | .set => braced text
      | .generator => "(" ++ text ++ ")"
  | .dictComprehension key value comprehended => do
    let key ← expr sparing .test key
    let value ← expr sparing .test value
    return braced (key ++ ": " ++ value ++ (← clauses sparing comprehended))
  | .await value => do
    let value ← expr sparing .atom value
    return parenthesized (Level.awaiting < level) ("await " ++ value)
  | .yield value => do
    let text ← optional sparing .atom " " value
    return parenthesized (Level.yielding < level) ("yield" ++ text)
  | .yieldFrom value => do
    let value ← expr sparing .atom value
    return parenthesized (Level.yielding < level) ("yield from " ++ value)
  | .compare left ops right => do
    let left ← expr sparing Level.compare.next left
    let right ← exprs sparing Level.compare.next right
    let compared := (ops.zip right).map fun (op, text) => " " ++ compareText op ++ " " ++ text
    return parenthesized (Level.compare < level) (left ++ String.join compared)
  | .call func args keywords => do
    let func ← expr sparing .atom func
    let args ← exprs sparing .test args
    let keywords ← keywordArgs sparing keywords
    return func ++ "(" ++ listed (args ++ keywords) ++ ")"
  | .formatted value conversion format => do
    field (← expr true Level.test.next value) conversion (← formatText sparing format)
  | .joined parts =>
    if sparing then do
      return "f" ++ inBestQuotes (String.join (← partTexts sparing parts))
    else do
      return "f" ++ inCommonQuotes ((← partTexts sparing parts).zip (parts.map isLiteral))
  | .literal value => some (literalText sparing value)
  | .attribute value name _ => do
    let gap := if isInteger value then " " else ""
    return (← expr sparing .atom value) ++ gap ++ "." ++ name
  | .subscript value index _ => do
    let value ← expr sparing .atom value
    return value ++ "[" ++ (← subscript sparing index) ++ "]"
  | .starred value _ => do
    return "*" ++ (← expr sparing .expr value)
  | .name id _ => some id
  | .list elements _ => do
    return "[" ++ listed (← exprs sparing .test elements) ++ "]"
  | .tuple elements _ => do
    let texts ← exprs sparing .test elements
    return parenthesized (texts.isEmpty || Level.tuple < level) (tupleItems texts)
  | .slice lower upper step => do
    let lower ← optional sparing .test "" lower
    let upper ← optional sparing .test ":" upper
    let step ← optional sparing .test ":" step
    return lower ++ (if upper.isEmpty then ":" else upper) ++ step

/-- The texts of expressions in places of one level. -/
def exprs (sparing : Bool) (level : Level) : List Expr → Option (List String)
  | [] => some []
  | e :: es => do
    let text ← expr sparing level e
    return text :: (← exprs sparing level es)

/-- The texts of expressions in places that ask for more and more, beginning above a level. -/
def tightening (sparing : Bool) (level : Level) : List Expr → Option (List String)
  | [] => some []
  | e :: es => do
    let text ← expr sparing level.next e
    return text :: (← tightening sparing level.next es)

/-- What is between the brackets of a subscript, where a tuple needs no parentheses. -/
def subscript (sparing : Bool) : Expr → Option String
  | .mk _ (.tuple (e :: es) _) => do
    return tupleItems (← exprs sparing .test (e :: es))
  | .mk _ form => exprForm sparing .test form

/-- An expression that may be absent, after a text. -/
def optional (sparing : Bool) (level : Level) (before : String) : Option Expr → Option String
  | none => some ""
  | some e => do
    return before ++ (← expr sparing level e)

/-- The items of a mapping. -/
def dictItems (sparing : Bool) : List (Option Expr × Expr) → Option (List String)
  | [] => some []
  | (none, value) :: items => do
    let text ← expr sparing .expr value
    return ("**" ++ text) :: (← dictItems sparing items)
  | (some key, value) :: items => do
    let key ← expr sparing .test key
    let value ← expr sparing .test value
    return (key ++ ": " ++ value) :: (← dictItems sparing items)

/-- The clauses of a comprehension. -/
def clauses (sparing : Bool) : List Clause → Option String
  | [] => some ""
  | .mk target source conditions isAsync :: rest => do
    let target ← expr sparing .tuple target
    let source ← expr sparing Level.test.next source
    let conditions ← exprs sparing Level.test.next conditions
    let head := if isAsync then " async for " else " for "
    return head ++ target ++ " in " ++ source ++ String.join (conditions.map (" if " ++ ·))
      ++ (← clauses sparing rest)

/-- Keyword arguments. -/
def keywordArgs (sparing : Bool) : List Keyword → Option (List String)
  | [] => some []
  | .mk _ name value :: rest => do
    let head := (name.map (· ++ "=")).getD "**"
    let value ← expr sparing .test value
    return (head ++ value) :: (← keywordArgs sparing rest)

/-- The parts of a formatted text: replacement fields, and literal parts with their braces
doubled. -/
def partTexts (sparing : Bool) : List Expr → Option (List String)
  | [] => some []
  | .mk _ (.literal (.text s _)) :: rest => do
    return doubledBraces s :: (← partTexts sparing rest)
  | .mk _ (.formatted value conversion format) :: rest => do
    let value ← expr true Level.test.next value
    let format ← formatText sparing format
    return (← field value conversion format) :: (← partTexts sparing rest)
  | .mk _ (.joined parts) :: rest => do
    let text := String.join (← partTexts sparing parts)
    return text :: (← partTexts sparing rest)
  | _ :: rest => partTexts sparing rest

/-- The format of a replacement field, after a colon. -/
def formatText (sparing : Bool) : Option Expr → Option String
  | none => some ""
  | some (.mk _ (.joined parts)) => do
    return ":" ++ String.join (← partTexts sparing parts)
  | some (.mk _ (.literal (.text s _))) => some (":" ++ doubledBraces s)
  | some _ => some ":"

/-- A parameter with its annotation. -/
def param (sparing : Bool) : Param → Option String
  | .mk _ name hint => do
    return name ++ (← optional sparing .test ": " hint)

/-- Parameters with their annotations. -/
def paramList (sparing : Bool) : List Param → Option (List String)
  | [] => some []
  | p :: ps => do
    let text ← param sparing p
    return text :: (← paramList sparing ps)

/-- A parameter that takes the remaining arguments, after its stars. -/
def starred (sparing : Bool) (stars : String) : Option Param → Option (List String)
  | none => some []
  | some p => do
    return [stars ++ (← param sparing p)]

/-- Defaults that may be absent, each after an equals sign. -/
def defaults (sparing : Bool) : List (Option Expr) → Option (List String)
  | [] => some []
  | d :: ds => do
    let text ← optional sparing .test "=" d
    return text :: (← defaults sparing ds)

/-- The parameters of a function. -/
def params (sparing : Bool) : Params → Option String
  | .mk positionalOnly positional variadic keywordOnly keywordDefaults variadicKeyword ds => do
    let before ← paramList sparing positionalOnly
    let others ← paramList sparing positional
    let values ← exprs sparing .test ds
    let names := before ++ others
    let missing := List.replicate (names.length - values.length) ""
    let texts := List.zipWith (· ++ ·) names (missing ++ values.map ("=" ++ ·))
    let slash := if before.isEmpty then [] else ["/"]
    let extra ← starred sparing "*" variadic
    let named ← paramList sparing keywordOnly
    let namedDefaults ← defaults sparing keywordDefaults
    let star := if extra.isEmpty && !named.isEmpty then ["*"] else extra
    let rest ← starred sparing "**" variadicKeyword
    return listed (texts.take before.length ++ slash ++ texts.drop before.length ++ star
      ++ List.zipWith (· ++ ·) named namedDefaults ++ rest)

end

/-- The text of the parameters of a function. -/
def paramsText (ps : Params) : Option String :=
  params false ps

end Playground.Source.Printer
