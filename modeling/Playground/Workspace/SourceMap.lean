import Playground.Text.Quoted

/-!
# Merged sources

The sources of a workspace are compiled as one text: a line for each using directive, then the
buffers, separated by line feeds. A `SourceMap` tells which part of that text is which.

- `mergeSources` lays out the text and its map side by side.
- `SourceMap.segmentAt?` goes from an offset of the merged text to its segment, and
  `SourceMap.toMerged` goes from an offset of a buffer to the merged text.
-/

namespace Playground

/-- Why a buffer cannot be had. -/
inductive Missing where
  /-- There is no buffer at all. -/
  | anyBuffer
  | buffer (id : String)
  deriving DecidableEq, Repr

/-- The wording of a missing buffer. -/
def Missing.message : Missing → String
  | .anyBuffer => "tuple index out of range"
  | .buffer id => Text.quoted id

/-- A source text with its identifier and the cursor in it, if there is one. -/
structure Buffer where
  id : String
  content : String
  position : Option Int
  deriving DecidableEq, Repr, Inhabited

/-- A part of the merged text. The part that no buffer accounts for is synthetic. -/
structure Segment where
  bufferId : Option String
  start : Nat
  stop : Nat
  deriving DecidableEq, Repr, Inhabited

namespace Segment

/-- Whether no buffer accounts for the segment. -/
def isSynthetic (s : Segment) : Bool :=
  s.bufferId.isNone

/-- Whether an offset belongs to the segment. The end of a buffer belongs to it, so that whatever
stands right after its last character does as well. -/
def contains (s : Segment) (offset : Int) : Bool :=
  if s.isSynthetic then s.start ≤ offset && offset < s.stop
  else s.start ≤ offset && offset ≤ s.stop

end Segment

/-- The segments of a merged text, in order. -/
structure SourceMap where
  segments : List Segment
  deriving DecidableEq, Repr, Inhabited

namespace SourceMap

/-- The segment of an offset. -/
def segmentAt? (m : SourceMap) (offset : Int) : Option Segment :=
  m.segments.find? fun s => s.contains offset

/-- The segment of a buffer. -/
def segmentFor (m : SourceMap) (id : String) : Except Missing Segment :=
  match m.segments.find? fun s => s.bufferId == some id with
  | some s => .ok s
  | none => .error (.buffer id)

/-- Where an offset of a buffer is in the merged text. -/
def toMerged (m : SourceMap) (id : String) (offset : Int) : Except Missing Int :=
  (m.segmentFor id).map fun s => s.start + offset

end SourceMap

/-- A merged text and its map. -/
structure MergedSource where
  text : String
  sourceMap : SourceMap
  deriving DecidableEq, Repr, Inhabited

/-- The lines of using directives. -/
def usingLines (usings : List String) : String :=
  String.join (usings.map (· ++ "\n"))

/-- The segments of buffers that begin at an offset, each one character after the end of the one
before. -/
def bufferSegments (start : Nat) : List Buffer → List Segment
  | [] => []
  | b :: rest =>
    let stop := start + b.content.length
    ⟨some b.id, start, stop⟩ :: bufferSegments (stop + 1) rest

/-- The merged text of using directives and buffers, with its map. -/
def mergeSources (usings : List String) (buffers : List Buffer) : MergedSource :=
  let prelude := usingLines usings
  let synthetic := if usings.isEmpty then [] else [⟨none, 0, prelude.length⟩]
  { text := prelude ++ "\n".intercalate (buffers.map (·.content))
    sourceMap := ⟨synthetic ++ bufferSegments prelude.length buffers⟩ }

end Playground
