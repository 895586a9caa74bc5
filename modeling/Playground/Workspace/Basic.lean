import Playground.Workspace.SourceMap

/-!
# Workspaces

What a request asks to be compiled, run or looked at: source buffers, using directives in scope for
all of them, and files for the program to read.
-/

namespace Playground

/-- A file that is laid out next to the program. -/
structure WorkspaceFile where
  name : String
  text : String
  deriving DecidableEq, Repr, Inhabited

/-- One request, whatever its shape was. -/
structure Workspace where
  /-- `script` for bare statements; anything else is a program with an entry point. -/
  kind : String
  buffers : List Buffer
  usings : List String
  files : List WorkspaceFile
  activeId : Option String
  deriving DecidableEq, Repr, Inhabited

namespace Workspace

/-- The kind of a workspace of bare statements. -/
def scriptKind : String := "script"

/-- The merged text of a workspace, with its map. -/
def merged (w : Workspace) : MergedSource :=
  mergeSources w.usings w.buffers

/-- The buffer of an identifier. -/
def buffer (w : Workspace) (id : String) : Except Missing Buffer :=
  match w.buffers.find? fun b => b.id == id with
  | some b => .ok b
  | none => .error (.buffer id)

/-- The buffer that a request is about: the active one, else the first with a cursor, else the
first. -/
def entryBuffer (w : Workspace) : Except Missing Buffer :=
  match w.activeId with
  | some id => w.buffer id
  | none =>
    match (w.buffers.find? fun b => b.position.isSome).or w.buffers.head? with
    | some b => .ok b
    | none => .error .anyBuffer

end Workspace

end Playground
