import Playground.Toolchain.Basic
import Playground.Workspace.Refusal

/-!
# Cursors

Completion and inspection are about the position in the entry buffer. The toolchain is asked about
the merged text, so that using directives are in scope, at the offset that the position has there.
-/

namespace Playground

/-- A place in a text. -/
structure Cursor where
  text : String
  offset : Int
  deriving DecidableEq, Repr

/-- Why a workspace has no cursor. -/
inductive CursorError where
  | missing (buffer : Missing)
  | refused (cause : Refusal)
  deriving DecidableEq, Repr

/-- The wording of a missing cursor. -/
def CursorError.message : CursorError → String
  | .missing buffer => buffer.message
  | .refused cause => cause.message

namespace Workspace

/-- The cursor of a workspace in its merged text. -/
def cursor (w : Workspace) : Except CursorError Cursor := do
  let b ← w.entryBuffer.mapError .missing
  match b.position with
  | none => throw (.refused .noPosition)
  | some position =>
    if position < 0 ∨ b.content.length < position then
      throw (.refused (.positionOutside position b.content.length))
    let offset ← (w.merged.sourceMap.toMerged b.id position).mapError .missing
    return ⟨w.merged.text, offset⟩

/-- What can be typed at the cursor. -/
def complete {τ : Type} (w : Workspace) (t : Toolchain τ) : Except CursorError (List Candidate) :=
  w.cursor.map fun c => t.complete c.text c.offset

/-- What is known about the name at the cursor. -/
def inspect {τ : Type} (w : Workspace) (t : Toolchain τ) :
    Except CursorError (Except Breakdown (Option Introspection)) :=
  w.cursor.map fun c => t.inspect c.text c.offset

end Workspace

end Playground
