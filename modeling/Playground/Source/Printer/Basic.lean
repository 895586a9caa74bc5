import Playground.Source.Literal.Shown
import Playground.Source.Printer.Quotes

/-!
# Printing expressions

The text of an expression, from its tree alone: the layout of the text that it was read from is
gone. Parentheses stand where they are needed, going by how tightly the operators bind, and around
every tuple that is not between brackets of its own.

Only one thing cannot be printed: a replacement field with a text that takes a backslash.
-/

namespace Playground.Source.Printer

/-- How tightly something binds; what binds less tightly than its place asks for is put between
parentheses. -/
abbrev Level := Nat

namespace Level

/-- Assignment expressions. -/
def named : Level := 1

/-- Tuples. -/
def tuple : Level := 2

/-- Yielding. -/
def yielding : Level := 3

/-- Conditional expressions and functions without a name. -/
def test : Level := 4

/-- Disjunctions. -/
def or : Level := 5

/-- Conjunctions. -/
def and : Level := 6

/-- Negations. -/
def not : Level := 7

/-- Comparisons. -/
def compare : Level := 8

/-- Operators on bits and everything below them. -/
def expr : Level := 9

/-- Awaiting. -/
def awaiting : Level := 17

/-- What needs no parentheses anywhere. -/
def atom : Level := 18

/-- The next level. -/
def next (l : Level) : Level := min (l + 1) atom

end Level

/-- The level of an operator between two values. -/
def binaryLevel : BinaryOp → Level
  | .bitOr => 9
  | .bitXor => 10
  | .bitAnd => 11
  | .shiftLeft | .shiftRight => 12
  | .add | .sub => 13
  | .mul | .matMul | .div | .mod | .floorDiv => 14
  | .pow => 16

/-- The levels of the values on both sides of an operator. -/
def operandLevels (op : BinaryOp) : Level × Level :=
  let level := binaryLevel op
  if op = .pow then (level.next, level) else (level, level.next)

/-- The text of an operator between two values. -/
def binaryText : BinaryOp → String
  | .add => "+"
  | .sub => "-"
  | .mul => "*"
  | .matMul => "@"
  | .div => "/"
  | .mod => "%"
  | .pow => "**"
  | .shiftLeft => "<<"
  | .shiftRight => ">>"
  | .bitOr => "|"
  | .bitXor => "^"
  | .bitAnd => "&"
  | .floorDiv => "//"

/-- The text of an operator before a value, and its level. -/
def unaryText : UnaryOp → String × Level
  | .invert => ("~", 15)
  | .not => ("not ", Level.not)
  | .plus => ("+", 15)
  | .minus => ("-", 15)

/-- The text of a comparison. -/
def compareText : CompareOp → String
  | .eq => "=="
  | .notEq => "!="
  | .lt => "<"
  | .ltE => "<="
  | .gt => ">"
  | .gtE => ">="
  | .isSame => "is"
  | .isNotSame => "is not"
  | .isIn => "in"
  | .isNotIn => "not in"

/-- The text of a conversion. -/
def conversionText : Conversion → String
  | .none => ""
  | .str => "!s"
  | .repr => "!r"
  | .ascii => "!a"

/-- A text between parentheses, if they are needed. -/
def parenthesized (needed : Bool) (text : String) : String :=
  if needed then "(" ++ text ++ ")" else text

/-- A text between braces. -/
def braced (text : String) : String :=
  "\x7b" ++ text ++ "\x7d"

/-- Texts with commas between them. -/
def listed (texts : List String) : String :=
  ", ".intercalate texts

/-- The elements of a tuple; a single one is followed by a comma. -/
def tupleItems : List String → String
  | [text] => text ++ ","
  | texts => listed texts

/-- A number that is not finite, by a numeral that is too large. -/
def finite (text : String) : String :=
  text.replace "inf" "1e309"

/-- The text of a literal value; one inside a replacement field spares backslashes. -/
def literalText (sparing : Bool) : Literal → String
  | .ellipsis => "..."
  | .float x => finite (Decimal.exactText x)
  | .complex re im => finite (Literal.complexText re im)
  | .text s mark => (if mark then "u" else "") ++ (if sparing then inBestQuotes s else Text.quoted s)
  | v => v.shown

/-- A literal part of a formatted text. -/
def doubledBraces (text : String) : String :=
  String.ofList <| text.toList.flatMap fun c => if c = '\x7b' ∨ c = '\x7d' then [c, c] else [c]

/-- Whether an expression is an integer, whose attributes need a space. -/
def isInteger : Expr → Bool
  | .mk _ (.literal (.int _)) | .mk _ (.literal (.bool _)) => true
  | _ => false

/-- Whether an expression is a literal text. -/
def isLiteral : Expr → Bool
  | .mk _ (.literal _) => true
  | _ => false

/-- A replacement field with the text of its expression. -/
def field (text : String) (conversion : Conversion) (format : String) : Option String :=
  if text.toList.contains '\\' then none
  else
    let gap := if text.toList.head? = some '\x7b' then " " else ""
    some (braced (gap ++ text ++ conversionText conversion ++ format))

end Playground.Source.Printer
