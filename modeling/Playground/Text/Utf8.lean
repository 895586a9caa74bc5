/-!
# Decoding UTF-8

A stream of bytes is decoded one byte at a time. Whatever cannot be part of a character is replaced
by U+FFFD: one replacement stands for the longest run of bytes that could have begun a character,
and for one byte where no character begins.

Since the state between two bytes does not tell how the bytes came in, the way in which a stream is
cut into pieces cannot show in the result.

Bytes that are cut out of a text are decoded without replacement (`wholeChars`): what is left of the
characters that the cuts go through is ignored.
-/

namespace Playground.Text.Utf8

/-- Stands for bytes that are no part of a character. -/
def replacement : Char := '\uFFFD'

/-- What a decoder knows between two bytes: nothing of a character yet, or its value so far, how
many bytes are missing, and the bounds of the next one. -/
inductive State where
  | start
  | inside (value missing low high : Nat)
  deriving DecidableEq, Repr, Inhabited

/-- The first byte of a character: a whole character, a state to go on from, or neither. -/
def lead (b : Nat) : State × List Char :=
  if b < 0x80 then (.start, [Char.ofNat b])
  else if 0xC2 ≤ b ∧ b ≤ 0xDF then (.inside (b - 0xC0) 1 0x80 0xBF, [])
  else if b = 0xE0 then (.inside 0 2 0xA0 0xBF, [])
  else if b = 0xED then (.inside 0xD 2 0x80 0x9F, [])
  else if 0xE1 ≤ b ∧ b ≤ 0xEF then (.inside (b - 0xE0) 2 0x80 0xBF, [])
  else if b = 0xF0 then (.inside 0 3 0x90 0xBF, [])
  else if 0xF1 ≤ b ∧ b ≤ 0xF3 then (.inside (b - 0xF0) 3 0x80 0xBF, [])
  else if b = 0xF4 then (.inside 4 3 0x80 0x8F, [])
  else (.start, [replacement])

/-- One byte: the next state, and the characters that are complete. -/
def step : State → UInt8 → State × List Char
  | .start, b => lead b.toNat
  | .inside value missing low high, b =>
    if low ≤ b.toNat ∧ b.toNat ≤ high then
      let value := value * 64 + (b.toNat - 0x80)
      if missing ≤ 1 then (.start, [Char.ofNat value])
      else (.inside value (missing - 1) 0x80 0xBF, [])
    else
      let (state, done) := lead b.toNat
      (state, replacement :: done)

/-- A piece of a stream. -/
def feed (s : State) (bytes : List UInt8) : State × List Char :=
  let (s, done) := bytes.foldl (fun (s, done) b =>
    let (s, cs) := step s b
    (s, cs.foldl (fun done c => c :: done) done)) (s, [])
  (s, done.reverse)

/-- The end of a stream: a character that has only begun is replaced. -/
def finish : State → List Char
  | .start => []
  | .inside .. => [replacement]

/-- A whole stream. -/
def decode (bytes : List UInt8) : List Char :=
  let (s, done) := feed .start bytes
  done ++ finish s

/-! ## Without replacement -/

/-- The bytes of a text. -/
def encode (text : List Char) : List UInt8 :=
  text.flatMap String.utf8EncodeChar

/-- The character whose bytes a stream begins with; no character has more than four. -/
def firstChar? (bytes : List UInt8) : Option Char :=
  (bytes.take 4).toByteArray.utf8DecodeChar? 0

/-- The characters whose bytes stand in a stream, behind so many bytes that belong to a character
before. Bytes that are not those of a character are ignored. -/
def wholeCharsAfter : Nat → List UInt8 → List Char
  | _, [] => []
  | more + 1, _ :: rest => wholeCharsAfter more rest
  | 0, b :: rest =>
    match firstChar? (b :: rest) with
    | some c => c :: wholeCharsAfter (c.utf8Size - 1) rest
    | none => wholeCharsAfter 0 rest

/-- The characters whose bytes stand in a stream. -/
def wholeChars (bytes : List UInt8) : List Char :=
  wholeCharsAfter 0 bytes

end Playground.Text.Utf8
