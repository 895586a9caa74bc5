import Playground.Text.Utf8

/-!
# Captured output

What a program writes is kept up to a number of characters. What comes after that is dropped, and a
line at the end says so.
-/

namespace Playground.Host

/-- The characters that were kept, the last one first, and whether any were dropped. -/
structure Capture where
  limit : Int
  kept : List Char
  size : Nat
  truncated : Bool
  deriving DecidableEq, Repr

namespace Capture

/-- Says that characters were dropped. -/
def marker : List Char := "\n[output truncated]".toList

/-- Nothing captured yet. -/
def empty (limit : Int) : Capture :=
  ⟨limit, [], 0, false⟩

/-- How many more characters are kept. -/
def room (c : Capture) : Nat :=
  (c.limit - c.size).toNat

/-- Captures a piece of output. -/
def append (c : Capture) (text : List Char) : Capture :=
  if text.isEmpty then c
  else
    let piece := text.take c.room
    { c with
      kept := piece.reverse ++ c.kept
      size := c.size + piece.length
      truncated := c.truncated || c.room < text.length }

/-- What was captured. -/
def output (c : Capture) : List Char :=
  c.kept.reverse ++ if c.truncated then marker else []

/-- Captures a stream of bytes that comes in pieces. The end of the stream is a piece of its own. -/
def ofPieces (limit : Int) (pieces : List (List UInt8)) : Capture :=
  let (c, s) := pieces.foldl (fun (c, s) piece =>
    let (s, text) := Text.Utf8.feed s piece
    (c.append text, s)) (empty limit, .start)
  c.append (Text.Utf8.finish s)

/-- Pieces of a length, the last one of which may be shorter. The fuel bounds their number. -/
def piecesOf (length : Nat) : Nat → List UInt8 → List (List UInt8)
  | 0, _ => []
  | fuel + 1, bytes =>
    if bytes.isEmpty then [] else bytes.take length :: piecesOf length fuel (bytes.drop length)

/-- How many bytes are read at once. -/
def pieceLength : Nat := 4096

/-- Captures a stream of bytes. -/
def ofBytes (limit : Int) (bytes : List UInt8) : Capture :=
  ofPieces limit (piecesOf pieceLength bytes.length bytes)

end Capture

end Playground.Host
