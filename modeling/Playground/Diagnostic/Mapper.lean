import Playground.Diagnostic.Mapping

/-!
# Mappers

Many diagnostics of one workspace are mapped and formatted by one mapper. It makes the line table of
a buffer when it first needs it, and keeps it for the diagnostics that come later.
-/

namespace Playground

/-- What maps and formats the reports on a workspace, with the line tables that it has made. -/
structure Mapper where
  workspace : Workspace
  tables : List (String × Text.LineTable)

namespace Mapper

/-- A mapper that has not been used. -/
def ofWorkspace (w : Workspace) : Mapper :=
  ⟨w, []⟩

/-- A report in the terms of the buffers. -/
def map (m : Mapper) (r : Report) : Except Missing Diagnostic × Mapper :=
  (Diagnostic.map m.workspace r, m)

/-- The line table of a buffer: the one that is kept, or a new one, which is kept from then on. -/
def lineTable (m : Mapper) (id : String) : Except Missing Text.LineTable × Mapper :=
  match m.tables.lookup id with
  | some table => (.ok table, m)
  | none =>
    match m.workspace.buffer id with
    | .error missing => (.error missing, m)
    | .ok b =>
      let table := Text.LineTable.ofText b.content.toList
      (.ok table, { m with tables := (id, table) :: m.tables })

/-- Where a diagnostic is: the buffer with the line and the column, or the using directives. -/
def location (m : Mapper) (d : Diagnostic) : Except Missing String × Mapper :=
  match d.bufferId with
  | none => (.ok "(usings)", m)
  | some id =>
    let (table, m) := m.lineTable id
    (table.map fun table =>
      let (line, column) := table.position d.start
      s!"{id}({line},{column})", m)

/-- A diagnostic on one line. -/
def format (m : Mapper) (d : Diagnostic) : Except Missing String × Mapper :=
  let (location, m) := m.location d
  (location.map fun location => s!"{location}: {d.severity} {d.id}: {d.message}", m)

/-- What a mapper is used for. -/
inductive Use where
  | map (r : Report)
  | format (d : Diagnostic)
  deriving DecidableEq, Repr

/-- A mapper after one use. -/
def step (m : Mapper) : Use → Mapper
  | .map r => (m.map r).2
  | .format d => (m.format d).2

/-- A mapper after some uses, in order. -/
def after (m : Mapper) (uses : List Use) : Mapper :=
  uses.foldl step m

end Mapper

end Playground
