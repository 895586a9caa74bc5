import Playground.Text.Quoted

/-!
# Refusals

The reasons for which a request is refused before any work is done for it.
-/

namespace Playground

/-- Why a request is refused. -/
inductive Refusal where
  /-- The request is no JSON of the right shape; so many of its parts are wrong. -/
  | unreadable (mistakes : Nat)
  | noBuffers
  | noSource
  | repeatedBufferId
  | unknownActiveBuffer (id : String)
  | badFileName (name : String)
  | dottedFileName (name : String)
  | repeatedFileName
  | badUsing (directive : String)
  | noPosition
  /-- The position is not within a text of this length. -/
  | positionOutside (position : Int) (length : Nat)
  | badHeader (name value : String)
  | headerOutOfRange (name : String) (maximum : Int)
  deriving DecidableEq, Repr

/-- The wording of a refusal. -/
def Refusal.message : Refusal → String
  | .unreadable mistakes => s!"Request could not be parsed: {mistakes} error(s)"
  | .noBuffers => "Workspace contains no buffers"
  | .noSource => "Request contains no Buffer, Source or Buffers"
  | .repeatedBufferId => "Buffer ids must be unique within a workspace"
  | .unknownActiveBuffer id => s!"Unknown active buffer: {Text.quoted id}"
  | .badFileName name => s!"Invalid file name: {Text.quoted name}"
  | .dottedFileName name => s!"File names may not start with '.': {Text.quoted name}"
  | .repeatedFileName => "File names must be unique within a workspace"
  | .badUsing directive => s!"Invalid using directive: {Text.quoted directive}"
  | .noPosition => "A cursor Position is required"
  | .positionOutside position length =>
    s!"Position {position} is outside the buffer (0..{length})"
  | .badHeader name value => s!"Invalid {name} header: {Text.quoted value}"
  | .headerOutOfRange name maximum => s!"{name} must be between 1 and {maximum} ms"

end Playground
