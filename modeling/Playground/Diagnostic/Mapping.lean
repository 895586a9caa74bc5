import Playground.Diagnostic.Basic
import Playground.Text.LineTable
import Playground.Workspace.Basic

/-!
# Mapping diagnostics

Reports about the merged text are told in terms of the buffer they concern.

- A report that starts inside a buffer is moved to that buffer, and cut off at its end.
- A report that starts elsewhere concerns no buffer and is empty.
- A report without a place is put at the start of the entry buffer.
-/

namespace Playground

/-- A report in the terms of a buffer, or of none. -/
structure Diagnostic where
  severity : String
  id : String
  message : String
  start : Nat
  stop : Nat
  bufferId : Option String
  deriving DecidableEq, Repr, Inhabited

namespace Diagnostic

/-- Whether a diagnostic concerns a buffer. -/
def isAttributable (d : Diagnostic) : Bool :=
  d.bufferId.isSome

/-- Whether a diagnostic keeps the text from running. -/
def isError (d : Diagnostic) : Bool :=
  d.severity == errorSeverity

/-- A report at a place in a buffer. -/
def ofReport (r : Report) (start stop : Nat) (bufferId : Option String) : Diagnostic :=
  ⟨r.severity, r.id, r.message, start, stop, bufferId⟩

/-- A report in the terms of the buffers of a workspace. -/
def map (w : Workspace) (r : Report) : Except Missing Diagnostic :=
  match r.start with
  | none => w.entryBuffer.map fun b => ofReport r 0 0 (some b.id)
  | some start =>
    match w.merged.sourceMap.segmentAt? start with
    | none => .ok (ofReport r 0 0 none)
    | some s =>
      if s.isSynthetic then .ok (ofReport r 0 0 none)
      else
        let stop := min (max (r.stop.getD start) start) s.stop
        .ok (ofReport r (start - s.start).toNat (stop - s.start).toNat s.bufferId)

/-- Reports in the terms of the buffers of a workspace, in order. -/
def mapAll (w : Workspace) (rs : List Report) : Except Missing (List Diagnostic) :=
  rs.mapM (map w)

/-- Where a diagnostic is: the buffer with the line and the column, or the using directives. -/
def location (w : Workspace) (d : Diagnostic) : Except Missing String :=
  match d.bufferId with
  | none => .ok "(usings)"
  | some id =>
    (w.buffer id).map fun b =>
      let (line, column) := (Text.LineTable.ofText b.content.toList).position d.start
      s!"{id}({line},{column})"

/-- A diagnostic on one line. -/
def format (w : Workspace) (d : Diagnostic) : Except Missing String :=
  (d.location w).map fun location => s!"{location}: {d.severity} {d.id}: {d.message}"

end Diagnostic

end Playground
