import Playground.Workspace.Basic
import Playground.Workspace.FileName

/-!
# Files of a run

The directory of a run as a map from paths to files and directories. Paths are lists of components
below the directory. Laying out a file makes the directories above it first.
-/

namespace Playground

/-- Why a file cannot be laid out, or a program not be launched. -/
inductive FileError where
  /-- A directory is needed where a file stands. -/
  | fileInTheWay
  /-- A path goes through a file. -/
  | throughFile
  | isDirectory
  | nameTooLong
  | nullCharacter
  | notFound
  deriving DecidableEq, Repr

/-- What stands at a path. -/
inductive FileEntry where
  | file (text : String)
  | directory
  deriving DecidableEq, Repr

/-- The directory of a run. -/
structure FileTree where
  entries : List (List (List Char) × FileEntry)
  deriving DecidableEq, Repr, Inhabited

namespace FileTree

/-- An empty directory. -/
def empty : FileTree := ⟨[]⟩

/-- What stands at a path; the directory itself at the empty one. -/
def find? (t : FileTree) (path : List (List Char)) : Option FileEntry :=
  match path with
  | [] => some .directory
  | _ => (t.entries.find? fun e => e.1 == path).map (·.2)

/-- Puts an entry at a path, in place of what stood there. -/
def set (t : FileTree) (path : List (List Char)) (entry : FileEntry) : FileTree :=
  ⟨(t.entries.filter fun e => e.1 != path) ++ [(path, entry)]⟩

/-- The files, with their paths. -/
def files (t : FileTree) : List (String × String) :=
  t.entries.filterMap fun
    | (path, .file text) => some (FileName.join path, text)
    | (_, .directory) => none

/-- The longest component of a path, in bytes. -/
def maxComponent : Nat := 255

/-- The longest path below the directory of a run, in bytes. -/
def maxPath : Nat := 4060

/-- How many bytes a component takes. -/
def byteSize (component : List Char) : Nat :=
  (String.ofList component).utf8ByteSize

/-- Makes the directories of a path that are missing; `above` is the path to the first of them. -/
def makeDirectories (t : FileTree) (above : List (List Char)) :
    List (List Char) → Except FileError FileTree
  | [] => .ok t
  | c :: rest =>
    if byteSize c > maxComponent then .error .nameTooLong
    else
      let path := above ++ [c]
      match t.find? path with
      | some (.file _) => .error (if rest.isEmpty then .fileInTheWay else .throughFile)
      | some .directory => makeDirectories t path rest
      | none => makeDirectories (t.set path .directory) path rest

/-- Lays out a file. -/
def write (t : FileTree) (name text : String) : Except FileError FileTree := do
  let path := FileName.components name.toList
  let above := path.dropLast
  if above.any fun c => c.contains '\x00' then throw .nullCharacter
  if byteSize (['/'].intercalate above) > maxPath then throw .nameTooLong
  let t ← t.makeDirectories [] above
  if name.toList.contains '\x00' then throw .nullCharacter
  if byteSize (path.getLastD []) > maxComponent || byteSize (['/'].intercalate path) > maxPath then
    throw .nameTooLong
  match t.find? path with
  | some .directory => throw .isDirectory
  | _ => return t.set path (.file text)

/-- Lays out the files of a workspace, one after the other. -/
def ofFiles (files : List WorkspaceFile) : Except FileError FileTree :=
  files.foldlM (fun t f => t.write f.name f.text) empty

end FileTree

end Playground
