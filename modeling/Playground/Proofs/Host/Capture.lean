import Playground.Host.Capture
import Playground.Proofs.Text.Utf8

/-!
# Captured streams

What is captured of a stream of bytes depends on the stream alone, and not on the pieces in which it
comes: the first characters of its text, and a marker if there are more.

- `append_append`: two pieces of output are captured like one.
- `ofPieces_output`: what is captured of a stream, whatever its pieces.
-/

namespace Playground.Host.Capture

/-- What a piece of output does to a capture; an empty one does nothing. -/
theorem append_eq (c : Capture) (text : List Char) :
    c.append text =
      ⟨c.limit, (text.take c.room).reverse ++ c.kept, c.size + (text.take c.room).length,
        c.truncated || c.room < text.length⟩ := by
  unfold append
  cases text with
  | nil => simp
  | cons x xs => rfl

/-- What is kept takes up room. -/
theorem room_append (c : Capture) (text : List Char) :
    (c.append text).room = c.room - text.length := by
  rw [append_eq, room, room, List.length_take]
  simp only
  omega

/-- Two pieces of output are captured like one. -/
theorem append_append (c : Capture) (first second : List Char) :
    (c.append first).append second = c.append (first ++ second) := by
  have hkept : (first ++ second).take c.room =
      first.take c.room ++ second.take (c.room - first.length) := List.take_append
  -- of the second piece something is dropped iff it does not fit behind the first one
  have htruncated : (c.truncated || decide (c.room < first.length) ||
      decide (c.room - first.length < second.length)) =
        (c.truncated || decide (c.room < (first ++ second).length)) := by
    rw [Bool.or_assoc, ← Bool.decide_or, List.length_append]
    exact congrArg _ (decide_eq_decide.mpr (by omega))
  rw [append_eq (c.append first) second, room_append, append_eq c first,
    append_eq c (first ++ second),
    hkept, ← htruncated]
  simp [Nat.add_assoc]

/-- Of a single piece the first characters are captured, and a marker if there are more. -/
theorem output_append_empty (limit : Int) (text : List Char) :
    ((empty limit).append text).output =
      text.take limit.toNat ++ if limit.toNat < text.length then marker else [] := by
  rw [append_eq, output, empty, room]
  simp

/-- Capturing piece after piece, with a decoder between them, is capturing all of what the decoder
makes of them. -/
theorem foldl_append (c : Capture) (s : Text.Utf8.State) (pieces : List (List UInt8)) :
    let done := pieces.foldl (fun (c, s) piece =>
      let (s, text) := Text.Utf8.feed s piece
      (c.append text, s)) (c, s)
    done.1.append (Text.Utf8.finish done.2) =
      c.append (Text.Utf8.decodeFrom s pieces.flatten) := by
  induction pieces generalizing c s with
  | nil => rfl
  | cons piece pieces ih =>
    have hfeed := Text.Utf8.feed_decodeFrom s piece pieces.flatten
    rw [List.flatten_cons, ← hfeed, ← append_append]
    exact ih _ _

/-- What is captured of a stream that comes in pieces is what is captured of all of it at once. -/
theorem ofPieces_eq (limit : Int) (pieces : List (List UInt8)) :
    ofPieces limit pieces = (empty limit).append (Text.Utf8.decode pieces.flatten) := by
  rw [Text.Utf8.decode_eq]
  exact foldl_append (empty limit) .start pieces

/-- What is captured of a stream are the first characters of its text, so many as are allowed, and a
marker iff there are more. A stream has one text, and how it was cut does not show. -/
theorem ofPieces_output (limit : Int) (pieces : List (List UInt8)) :
    (∃ text, Text.Utf8.Decodes pieces.flatten text ∧
      (∀ text', Text.Utf8.Decodes pieces.flatten text' → text' = text) ∧
      (ofPieces limit pieces).output =
        text.take limit.toNat ++ if limit.toNat < text.length then marker else []) ∧
    ∀ pieces', pieces'.flatten = pieces.flatten →
      (ofPieces limit pieces').output = (ofPieces limit pieces).output := by
  refine ⟨⟨_, Text.Utf8.decodes_iff.mpr rfl, fun text' h => (Text.Utf8.decodes_iff.mp h).symm, ?_⟩,
    fun pieces' hsame => ?_⟩
  · rw [ofPieces_eq, output_append_empty]
  · rw [ofPieces_eq, ofPieces_eq, hsame]

end Playground.Host.Capture
