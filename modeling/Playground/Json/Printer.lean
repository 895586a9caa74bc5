import Playground.Decimal.Writing
import Playground.Json.Value
import Playground.Text.Quoted

/-!
# Printing JSON

One line of ASCII: every other character is escaped, those beyond the first plane as their two
halves. A space follows each comma and each colon.
-/

namespace Playground.Json

/-- An escape sequence for a unit of sixteen bits. -/
def unitEscape (n : Nat) : List Char :=
  '\\' :: 'u' :: Text.hexDigits 4 n

/-- A character inside a text. -/
def charText (c : Char) : List Char :=
  if c = '"' then ['\\', '"']
  else if c = '\\' then ['\\', '\\']
  else if c = '\n' then ['\\', 'n']
  else if c = '\r' then ['\\', 'r']
  else if c = '\t' then ['\\', 't']
  else if c = '\x08' then ['\\', 'b']
  else if c = '\x0c' then ['\\', 'f']
  else
    let n := c.toNat
    if 32 ≤ n ∧ n < 127 then [c]
    else if n < 0x10000 then unitEscape n
    else unitEscape (0xD800 + (n - 0x10000) / 0x400) ++ unitEscape (0xDC00 + (n - 0x10000) % 0x400)

/-- A text between quotes. -/
def textText (s : String) : List Char :=
  '"' :: s.toList.flatMap charText ++ ['"']

/-- A decimal; those that are not finite are words. -/
def floatText (x : Float) : List Char :=
  match Decimal.magnitude x with
  | .notANumber => "NaN".toList
  | .infinite => if Decimal.isNegative x then "-Infinity".toList else "Infinity".toList
  | .finite .. => (Decimal.exactText x).toList

mutual

/-- The text of a value. -/
def print : Json → List Char
  | .null => "null".toList
  | .bool true => "true".toList
  | .bool false => "false".toList
  | .int n => (toString n).toList
  | .float x => floatText x
  | .text s => textText s
  | .list [] => ['[', ']']
  | .list (v :: vs) => '[' :: print v ++ printElements vs
  | .object [] => ['\x7b', '\x7d']
  | .object ((name, v) :: fs) => '\x7b' :: textText name ++ ':' :: ' ' :: print v ++ printFields fs

/-- The elements of a list after the first, and its closing bracket. -/
def printElements : List Json → List Char
  | [] => [']']
  | v :: vs => ',' :: ' ' :: print v ++ printElements vs

/-- The fields of an object after the first, and its closing brace. -/
def printFields : List (String × Json) → List Char
  | [] => ['\x7d']
  | (name, v) :: fs => ',' :: ' ' :: textText name ++ ':' :: ' ' :: print v ++ printFields fs

end

end Playground.Json
