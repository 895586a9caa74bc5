import Playground.Text.Names

/-!
# Escape sequences

The values of escape sequences in text and bytes literals. A sequence that means nothing stands for
itself, and the first such sequence of a literal is reported so that the reader can be warned.
-/

namespace Playground.Source.Escape

/-- The value of a digit in base sixteen. -/
def hexValue? (c : Char) : Option Nat :=
  if c.isDigit then some (c.toNat - 48)
  else if 'a' ≤ c && c ≤ 'f' then some (c.toNat - 87)
  else if 'A' ≤ c && c ≤ 'F' then some (c.toNat - 55)
  else none

/-- A digit in base eight. -/
def isOctal (c : Char) : Bool :=
  '0' ≤ c && c ≤ '7'

/-- The value of digits in base eight. -/
def octalValue (digits : List Char) : Nat :=
  digits.foldl (fun n c => n * 8 + (c.toNat - 48)) 0

/-- The value of digits in base sixteen. -/
def hexNumber (digits : List Char) : Nat :=
  digits.foldl (fun n c => n * 16 + (hexValue? c).getD 0) 0

/-- Escapes of one letter. -/
def simple? : Char → Option Char
  | '\\' => some '\\'
  | '\'' => some '\''
  | '"' => some '"'
  | 'b' => some '\x08'
  | 'f' => some '\x0c'
  | 't' => some '\t'
  | 'n' => some '\n'
  | 'r' => some '\r'
  | 'v' => some '\x0b'
  | 'a' => some '\x07'
  | _ => none

/-- The warning for a sequence without a meaning, of which the text after the backslash is given. -/
def warning (after : List Char) : String :=
  match after with
  | c :: _ =>
    if '4' ≤ c && c ≤ '7' then
      s!"invalid octal escape sequence '\\{String.ofList (after.take 3)}'"
    else s!"invalid escape sequence '\\{c}'"
  | [] => "invalid escape sequence '\\'"

/-- What a literal stands for, and the text after the first backslash without a meaning. -/
structure Decoded (α : Type) where
  value : List α
  meaningless : Option (List Char) := none

/-- Adds a value in front. -/
def Decoded.cons {α : Type} (a : α) (d : Decoded α) : Decoded α :=
  { d with value := a :: d.value }

/-- Notes a sequence without a meaning in front of those already noted. -/
def Decoded.note {α : Type} (after : List Char) (d : Decoded α) : Decoded α :=
  { d with meaningless := some after }

/-- Positions in a text are counted as if each character outside ASCII were written as an escape of
ten characters. -/
def width (c : Char) : Nat :=
  if c.toNat < 128 then 1 else 10

/-- The fault of a sequence that stands between two positions. -/
def fault (start stop : Nat) (reason : String) : String :=
  if stop = start + 1 then
    s!"'unicodeescape' codec can't decode byte 0x5c in position {start}: {reason}"
  else
    s!"'unicodeescape' codec can't decode bytes in position {start}-{stop - 1}: {reason}"

/-- How a text goes on after a backslash and the letter of a numeric escape: exactly `count` digits
are needed. -/
def numeric (count : Nat) (rest : List Char) : Except Nat (Nat × List Char) :=
  let digits := (rest.take count).takeWhile fun c => (hexValue? c).isSome
  if digits.length = count then .ok (hexNumber digits, rest.drop count) else .error digits.length

/-- The value of a text literal, read from position `pos`; the fuel bounds its length. -/
def decodeText (pos : Nat) : Nat → List Char → Except String (Decoded Char)
  | 0, _ => .ok ⟨[], none⟩
  | _, [] => .ok ⟨[], none⟩
  | _, ['\\'] => .ok ⟨['\\'], none⟩
  | fuel + 1, '\\' :: c :: rest =>
    if c.toNat ≥ 128 then do
      return ((← decodeText (pos + 6 + width c) fuel rest).cons c).cons '\\'
    else if c = '\n' then decodeText (pos + 2) fuel rest
    else if let some v := simple? c then do
      return (← decodeText (pos + 2) fuel rest).cons v
    else if isOctal c then do
      let digits := c :: (rest.take 2).takeWhile isOctal
      let value := octalValue digits
      let d ← decodeText (pos + 1 + digits.length) fuel (rest.drop (digits.length - 1))
      let d := d.cons (Char.ofNat value)
      return if value > 0o377 then d.note (c :: rest) else d
    else if c = 'x' || c = 'u' || c = 'U' then
      let (count, form) :=
        if c = 'x' then (2, "truncated \\xXX escape")
        else if c = 'u' then (4, "truncated \\uXXXX escape")
        else (8, "truncated \\UXXXXXXXX escape")
      match numeric count rest with
      | .error n => .error (fault pos (pos + 2 + n) form)
      | .ok (value, rest) =>
        if value > 0x10FFFF then .error (fault pos (pos + 2 + count) "illegal Unicode character")
        else do
          let ch := if h : value.isValidChar then Char.ofNatAux value h else '\ufffd'
          return (← decodeText (pos + 2 + count) fuel rest).cons ch
    else if c = 'N' then
      match rest with
      | '{' :: rest =>
        let name := rest.takeWhile (· ≠ '}')
        let length := (name.map width).sum
        if name.length = rest.length then
          .error (fault pos (pos + 3 + length) "malformed \\N character escape")
        else if name.isEmpty then
          .error (fault pos (pos + 3) "malformed \\N character escape")
        else
          match Text.charNamed? (String.ofList name) with
          | none => .error (fault pos (pos + 4 + length) "unknown Unicode character name")
          | some ch => do
            return (← decodeText (pos + 4 + length) fuel (rest.drop (name.length + 1))).cons ch
      | _ => .error (fault pos (pos + 2) "malformed \\N character escape")
    else do
      return (((← decodeText (pos + 2) fuel rest).cons c).cons '\\').note (c :: rest)
  | fuel + 1, c :: rest => do
    return (← decodeText (pos + width c) fuel rest).cons c

/-- The value of a bytes literal, read from position `pos`; the fuel bounds its length. -/
def decodeBytes (pos : Nat) : Nat → List Char → Except String (Decoded UInt8)
  | 0, _ => .ok ⟨[], none⟩
  | _, [] => .ok ⟨[], none⟩
  | fuel + 1, '\\' :: c :: rest =>
    if c = '\n' then decodeBytes (pos + 2) fuel rest
    else if let some v := simple? c then do
      return (← decodeBytes (pos + 2) fuel rest).cons v.toNat.toUInt8
    else if isOctal c then do
      let digits := c :: (rest.take 2).takeWhile isOctal
      let value := octalValue digits
      let d ← decodeBytes (pos + 1 + digits.length) fuel (rest.drop (digits.length - 1))
      let d := d.cons value.toUInt8
      return if value > 0o377 then d.note (c :: rest) else d
    else if c = 'x' then
      match numeric 2 rest with
      | .error _ => .error s!"invalid \\x escape at position {pos}"
      | .ok (value, rest) => do
        return (← decodeBytes (pos + 4) fuel rest).cons value.toUInt8
    else do
      let d ← decodeBytes (pos + 2) fuel rest
      return ((d.cons c.toNat.toUInt8).cons 92).note (c :: rest)
  | fuel + 1, c :: rest => do
    return (← decodeBytes (pos + 1) fuel rest).cons c.toNat.toUInt8

end Playground.Source.Escape
