import Playground.Toolchain.Basic

/-!
# Compiling workspaces

The kind of a workspace decides how its merged text is compiled. Whatever cannot be run comes with
an error that says why.
-/

namespace Playground

/-- What compiling a workspace yields. An artifact that comes with an error is discarded. -/
structure WorkspaceCompilation where
  mode : Mode
  artifact : Option Artifact
  reports : List Report
  deriving DecidableEq, Repr

namespace WorkspaceCompilation

/-- Whether there is something to run. -/
def succeeded (c : WorkspaceCompilation) : Bool :=
  c.artifact.isSome

/-- Says that there is nothing to run. -/
def noArtifact : Report :=
  .unplacedError "PY0000" "Compilation did not produce a runnable artifact"

/-- The outcome of a compilation. -/
def ofCompilation (mode : Mode) (c : Compilation) : WorkspaceCompilation :=
  if c.succeeded then ⟨mode, c.artifact, c.reports⟩
  else ⟨mode, none, if c.hasError then c.reports else c.reports ++ [noArtifact]⟩

end WorkspaceCompilation

/-- Compiles a workspace. -/
def Workspace.compile {τ : Type} (w : Workspace) (t : Toolchain τ) :
    Except Breakdown WorkspaceCompilation :=
  let mode := Mode.ofKind w.kind
  (t.compile w.merged.text mode).map (.ofCompilation mode)

end Playground
