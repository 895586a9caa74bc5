import Playground.Text.Pieces
import Playground.Workspace.Refusal

/-!
# File names

A file name is a relative path that stays inside the directory it is used in. Its components are
the pieces between slashes; empty ones and single dots say nothing and are dropped.
-/

namespace Playground.FileName

/-- The components of a path. -/
def components (name : List Char) : List (List Char) :=
  (Text.pieces '/' name).filter fun c => c ≠ [] ∧ c ≠ ['.']

/-- A path of components. -/
def join (components : List (List Char)) : String :=
  String.ofList (['/'].intercalate components)

/-- A file name in its canonical form. It must have a component, stand below its directory, and not
begin with a dot: such names belong to the host that runs programs. -/
def check (name : String) : Except Refusal String :=
  let text := name.toList
  match components text with
  | [] => .error (.badFileName name)
  | first :: rest =>
    if text.contains '\\' ∨ text.head? = some '/' ∨ (first :: rest).contains ['.', '.'] then
      .error (.badFileName name)
    else if first.head? = some '.' then .error (.dottedFileName name)
    else .ok (join (first :: rest))

end Playground.FileName
