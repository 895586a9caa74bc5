import Playground.Text.Printable

/-!
# Quoted texts

A text as messages show it: between single quotes, or between double quotes when it holds single
quotes but no double ones. The quote around it and the backslash are escaped, and so is whatever
cannot be printed.
-/

namespace Playground.Text

/-- A number in base sixteen with small letters and at least `width` digits. -/
def hexDigits (width n : Nat) : List Char :=
  let digits := Nat.toDigits 16 n
  List.replicate (width - digits.length) '0' ++ digits

/-- An escape sequence that gives a code point in the shortest of its three widths. -/
def escapeCode (n : Nat) : List Char :=
  if n < 0x100 then '\\' :: 'x' :: hexDigits 2 n
  else if n < 0x10000 then '\\' :: 'u' :: hexDigits 4 n
  else '\\' :: 'U' :: hexDigits 8 n

/-- A character between quotes, where `printable` characters stand for themselves. -/
def quoteChar (printable : Char → Bool) (quote c : Char) : List Char :=
  if c = quote ∨ c = '\\' then ['\\', c]
  else if c = '\t' then ['\\', 't']
  else if c = '\n' then ['\\', 'n']
  else if c = '\r' then ['\\', 'r']
  else if printable c then [c]
  else escapeCode c.toNat

/-- The quote to put around a text. -/
def quoteFor (text : List Char) : Char :=
  if text.contains '\'' && !text.contains '"' then '"' else '\''

/-- A text between quotes, where `printable` characters stand for themselves. -/
def quoteWith (printable : Char → Bool) (text : List Char) : List Char :=
  let q := quoteFor text
  q :: text.flatMap (quoteChar printable q) ++ [q]

/-- A text between quotes. -/
def quoted (text : String) : String :=
  String.ofList (quoteWith isPrintable text.toList)

/-- Bytes between quotes, after the letter `b`: visible ASCII characters stand for themselves. -/
def quotedBytes (bytes : List UInt8) : String :=
  let text := bytes.map fun b => Char.ofNat b.toNat
  String.ofList ('b' :: quoteWith (fun c => 32 ≤ c.toNat && c.toNat < 127) text)

end Playground.Text
