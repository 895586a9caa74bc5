import Playground.Source.Keyword
import Playground.Source.Tree

/-!
# Tokens

The words of a source text. A keyword is a name that the grammar reserves.
-/

namespace Playground.Source

/-- The kinds of token. Operators and delimiters are told apart by their text. -/
inductive TokenKind where
  | name
  | keyword
  | number
  | string
  | op
  | newline
  | indent
  | dedent
  | endMarker
  /-- No token: the scanner stopped here. -/
  | invalid
  deriving DecidableEq, Repr, Inhabited

/-- A token, with the number of brackets open after it. -/
structure Token where
  kind : TokenKind
  text : String
  span : Span
  depth : Nat
  deriving Repr, Inhabited

/-- Layout tokens, which never end a piece of syntax. -/
def TokenKind.isLayout : TokenKind → Bool
  | .newline | .indent | .dedent | .endMarker => true
  | _ => false

/-- Operators of two characters. -/
def isDoubleOperator (a b : Char) : Bool :=
  ["!=", "%=", "&=", "**", "*=", "+=", "-=", "->", "//", "/=", ":=", "<<", "<=", "<>", "==", ">=",
   ">>", "@=", "^=", "|="].contains (String.ofList [a, b])

/-- Operators of three characters. -/
def isTripleOperator (a b c : Char) : Bool :=
  ["**=", "...", "//=", "<<=", ">>="].contains (String.ofList [a, b, c])

end Playground.Source
