import Playground.Text.Utf8

/-!
# Line tables

Where the lines of a text start, and the two-way translation between an offset in the text and a
place on a line. A line ends with a carriage return, a line feed, or one of each in that order.

- `LineTable.offset` and `LineTable.byteOffset` go from a line and a column to an offset; a column
  beyond the line counts as its end, so the answer never leaves the line.
- `LineTable.position` goes back, and counts lines and columns from one.
-/

namespace Playground.Text

/-- The offsets at which lines start after the first one, for a text that begins at offset `n`. -/
def lineStartsFrom (n : Nat) : List Char → List Nat
  | [] => []
  | '\r' :: '\n' :: rest => (n + 2) :: lineStartsFrom (n + 2) rest
  | c :: rest =>
    if c = '\r' ∨ c = '\n' then (n + 1) :: lineStartsFrom (n + 1) rest
    else lineStartsFrom (n + 1) rest

/-- The offsets at which the lines of a text start. -/
def lineStarts (text : List Char) : List Nat :=
  0 :: lineStartsFrom 0 text

/-- A text with the offsets of its lines. -/
structure LineTable where
  text : List Char
  starts : List Nat
  starts_eq : starts = lineStarts text

namespace LineTable

/-- The lines of a text. -/
def ofText (text : List Char) : LineTable :=
  ⟨text, lineStarts text, rfl⟩

/-- The number of lines; a text without a line terminator has one. -/
def count (t : LineTable) : Nat :=
  t.starts.length

/-- Where a line starts. Lines before the first count as the first. -/
def lineStart (t : LineTable) (line : Int) : Nat :=
  t.starts.getD (max line 1 - 1).toNat t.text.length

/-- A line without its terminator; empty for a line that does not exist. -/
def lineText (t : LineTable) (line : Int) : List Char :=
  if line < 1 ∨ line > t.count then []
  else
    let start := t.lineStart line
    let stop := t.starts.getD line.toNat t.text.length
    ((t.text.drop start).take (stop - start)).takeWhile fun c => c ≠ '\r' ∧ c ≠ '\n'

/-- The offset of a column, counted in characters from zero. Lines before the first count as the
first, lines after the last end the text, and a column is moved to the nearest one on its line. -/
def offset (t : LineTable) (line column : Int) : Nat :=
  if line > t.count then t.text.length
  else
    let line := max line 1
    t.lineStart line + (min (max column 0) (t.lineText line).length).toNat

/-- The offset of a column counted in bytes of UTF-8; a column within a character counts as the
start of that character. -/
def byteOffset (t : LineTable) (line column : Int) : Nat :=
  t.offset line (Utf8.wholeChars ((Utf8.encode (t.lineText line)).take column.toNat)).length

/-- The line and the column of an offset, both counted from one. -/
def position (t : LineTable) (offset : Int) : Nat × Nat :=
  let offset := (min (max offset 0) t.text.length).toNat
  let upTo := t.starts.takeWhile (· ≤ offset)
  (upTo.length, offset - upTo.getLastD 0 + 1)

end LineTable

end Playground.Text
