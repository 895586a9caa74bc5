import Playground.Text.Blank
import Playground.Workspace.Basic

/-!
# Compilation modes

A script is a sequence of statements that run as they come. A program declares things, and its
entry point is called once it has been loaded.
-/

namespace Playground

/-- How a source text is compiled. -/
inductive Mode where
  | script
  | program
  deriving DecidableEq, Repr, Inhabited

namespace Mode

/-- The name of a mode. -/
def name : Mode → String
  | .script => "script"
  | .program => "program"

/-- The mode of a kind of workspace. White space around the kind and the case of its letters do not
matter; only ASCII letters become the letters of the word. -/
def ofKind (kind : String) : Mode :=
  if (Text.trim kind.toList).map Char.toLower = Workspace.scriptKind.toList then .script
  else .program

/-- The name that a module of this mode has for itself. -/
def moduleName : Mode → String
  | .script => "__main__"
  | .program => "__program__"

/-- The function that is called once a module of this mode has been loaded. -/
def entryPoint? : Mode → Option String
  | .script => none
  | .program => some "main"

end Mode

end Playground
