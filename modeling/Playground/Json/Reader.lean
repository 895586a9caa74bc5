import Playground.Decimal.Reading
import Playground.Json.Value

/-!
# Reading JSON

A strict reader: white space is space, tab, carriage return and line feed; numbers have no leading
zeros and no bare points; texts hold no control characters and no halves of characters; nothing may
stand around the value. Beyond the standard it takes the words `NaN`, `Infinity` and `-Infinity`.

The reader goes through the text once; the number of steps is bounded by twice its length.
-/

namespace Playground.Json

/-- White space between tokens. -/
def isSpace (c : Char) : Bool :=
  c == ' ' || c == '\t' || c == '\r' || c == '\n'

/-- A text without the white space at its start. -/
def skipSpace (s : List Char) : List Char :=
  s.dropWhile isSpace

/-- The longest integer that is read. -/
def maxIntDigits : Nat := 4300

/-- The value of a hexadecimal digit. -/
def hexValue? (c : Char) : Option Nat :=
  if c.isDigit then some (c.toNat - 48)
  else if 'a' ≤ c ∧ c ≤ 'f' then some (c.toNat - 87)
  else if 'A' ≤ c ∧ c ≤ 'F' then some (c.toNat - 55)
  else none

/-- Four hexadecimal digits. -/
def hexUnit? : List Char → Option (Nat × List Char)
  | a :: b :: c :: d :: rest => do
    let a ← hexValue? a
    let b ← hexValue? b
    let c ← hexValue? c
    let d ← hexValue? d
    return (((a * 16 + b) * 16 + c) * 16 + d, rest)
  | _ => none

/-- The character of an escape sequence after the letter `u`: one unit, or the two halves of a
character beyond the first plane. -/
def unicodeEscape? (s : List Char) : Option (Char × List Char) := do
  let (high, rest) ← hexUnit? s
  if 0xD800 ≤ high ∧ high < 0xDC00 then
    match rest with
    | '\\' :: 'u' :: rest =>
      let (low, rest) ← hexUnit? rest
      guard (0xDC00 ≤ low && low < 0xE000)
      return (Char.ofNat (0x10000 + (high - 0xD800) * 0x400 + (low - 0xDC00)), rest)
    | _ => none
  else
    guard (!(0xDC00 ≤ high && high < 0xE000))
    return (Char.ofNat high, rest)

/-- The character of an escape sequence after the backslash. -/
def escape? : List Char → Option (Char × List Char)
  | '"' :: rest => some ('"', rest)
  | '\\' :: rest => some ('\\', rest)
  | '/' :: rest => some ('/', rest)
  | 'b' :: rest => some ('\x08', rest)
  | 'f' :: rest => some ('\x0c', rest)
  | 'n' :: rest => some ('\n', rest)
  | 'r' :: rest => some ('\r', rest)
  | 't' :: rest => some ('\t', rest)
  | 'u' :: rest => unicodeEscape? rest
  | _ => none

/-- A text up to its closing quote; `done` is what was read before, in reverse. -/
def readText (done : List Char) : Nat → List Char → Option (String × List Char)
  | 0, _ => none
  | _ + 1, '"' :: rest => some (String.ofList done.reverse, rest)
  | fuel + 1, '\\' :: rest => do
    let (c, rest) ← escape? rest
    readText (c :: done) fuel rest
  | fuel + 1, c :: rest => if c.toNat < 32 then none else readText (c :: done) fuel rest
  | _ + 1, [] => none

/-- The digits of a fraction, with the point, if there is one. -/
def fractionPart? (s : List Char) : Option (List Char × List Char) :=
  match s with
  | '.' :: rest =>
    match rest.takeWhile Char.isDigit with
    | [] => none
    | digits => some ('.' :: digits, rest.dropWhile Char.isDigit)
  | _ => some ([], s)

/-- An exponent, if there is one. -/
def exponentPart? (s : List Char) : Option (List Char × List Char) :=
  match s with
  | e :: rest =>
    if e = 'e' ∨ e = 'E' then
      let (sign, rest) :=
        match rest with
        | '+' :: r => (['+'], r)
        | '-' :: r => (['-'], r)
        | r => ([], r)
      match rest.takeWhile Char.isDigit with
      | [] => none
      | digits => some ('e' :: sign ++ digits, rest.dropWhile Char.isDigit)
    else some ([], s)
  | [] => some ([], [])

/-- A number without its sign: an integer, or a decimal if it has a fraction or an exponent. -/
def readNumber (negative : Bool) (s : List Char) : Option (Json × List Char) := do
  let whole := s.takeWhile Char.isDigit
  let rest := s.dropWhile Char.isDigit
  guard (!whole.isEmpty && (whole.length == 1 || whole.head? != some '0'))
  let (fraction, rest) ← fractionPart? rest
  let (exponent, rest) ← exponentPart? rest
  if fraction.isEmpty && exponent.isEmpty then
    guard (whole.length ≤ maxIntDigits)
    let n : Int := Decimal.ofDigits whole
    return (.int (if negative then -n else n), rest)
  else
    let x := Decimal.readFloat (whole ++ fraction ++ exponent)
    return (.float (if negative then -x else x), rest)

/-- What follows a word, if the text starts with it. -/
def afterWord? (word : List Char) (s : List Char) : Option (List Char) :=
  if word.isPrefixOf s then some (s.drop word.length) else none

/-- A value that is no text, list or object. -/
def readAtom (s : List Char) : Option (Json × List Char) :=
  match s with
  | '-' :: 'I' :: _ => (afterWord? "-Infinity".toList s).map ((.float (-1.0 / 0.0)), ·)
  | '-' :: rest => readNumber true rest
  | 'n' :: _ => (afterWord? "null".toList s).map (.null, ·)
  | 't' :: _ => (afterWord? "true".toList s).map (.bool true, ·)
  | 'f' :: _ => (afterWord? "false".toList s).map (.bool false, ·)
  | 'N' :: _ => (afterWord? "NaN".toList s).map (.float (0.0 / 0.0), ·)
  | 'I' :: _ => (afterWord? "Infinity".toList s).map (.float (1.0 / 0.0), ·)
  | _ => readNumber false s

mutual

/-- A value; `depth` lists and objects may be nested in each other. -/
def readValue (depth : Nat) : Nat → List Char → Option (Json × List Char)
  | 0, _ => none
  | fuel + 1, s =>
    match skipSpace s with
    | '"' :: rest => (readText [] (rest.length + 1) rest).map fun (t, rest) => (.text t, rest)
    | '[' :: rest =>
      if depth = 0 then none
      else
        match skipSpace rest with
        | ']' :: rest => some (.list [], rest)
        | rest => (readElements (depth - 1) fuel rest).map fun (es, rest) => (.list es, rest)
    | '\x7b' :: rest =>
      if depth = 0 then none
      else
        match skipSpace rest with
        | '\x7d' :: rest => some (.object [], rest)
        | rest => (readFields (depth - 1) fuel rest).map fun (fs, rest) => (.object fs, rest)
    | s => readAtom s

/-- The elements of a list up to its closing bracket. -/
def readElements (depth : Nat) : Nat → List Char → Option (List Json × List Char)
  | 0, _ => none
  | fuel + 1, s => do
    let (v, rest) ← readValue depth fuel s
    match skipSpace rest with
    | ',' :: rest => (readElements depth fuel rest).map fun (vs, rest) => (v :: vs, rest)
    | ']' :: rest => some ([v], rest)
    | _ => none

/-- The fields of an object up to its closing brace. -/
def readFields (depth : Nat) : Nat → List Char → Option (List (String × Json) × List Char)
  | 0, _ => none
  | fuel + 1, s =>
    match skipSpace s with
    | '"' :: rest => do
      let (name, rest) ← readText [] (rest.length + 1) rest
      match skipSpace rest with
      | ':' :: rest =>
        let (v, rest) ← readValue depth fuel rest
        match skipSpace rest with
        | ',' :: rest => (readFields depth fuel rest).map fun (fs, rest) => ((name, v) :: fs, rest)
        | '\x7d' :: rest => some ([(name, v)], rest)
        | _ => none
      | _ => none
    | _ => none

end

/-- Reads a text that holds one value; `depth` lists and objects may be nested in each other. -/
def read? (depth : Nat) (text : List Char) : Option Json :=
  match readValue depth (2 * text.length + 2) text with
  | some (v, rest) => if (skipSpace rest).isEmpty then some v else none
  | none => none

end Playground.Json
