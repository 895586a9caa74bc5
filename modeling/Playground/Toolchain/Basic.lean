import Playground.Clock.Basic
import Playground.Diagnostic.Basic
import Playground.Mode.Basic

/-!
# Toolchains

What compiling, running and completing depend on. A toolchain compiles merged texts, starts what it
compiled, and answers questions about a place in a text without running anything.
-/

namespace Playground

/-- What can be run. -/
structure Artifact where
  mode : Mode
  entryPoint : Option String
  deriving DecidableEq, Repr

/-- What a compilation yields. -/
structure Compilation where
  artifact : Option Artifact
  reports : List Report
  deriving DecidableEq, Repr

namespace Compilation

/-- Whether a text was found wrong. -/
def hasError (c : Compilation) : Bool :=
  c.reports.any Report.isError

/-- Whether there is something to run and nothing wrong with it. -/
def succeeded (c : Compilation) : Bool :=
  c.artifact.isSome && !c.hasError

end Compilation

/-- Why a toolchain gives up on a text instead of reporting what is wrong with it. -/
inductive Breakdown where
  | nullCharacter
  /-- The text is nested too deeply for the parser. -/
  | deepText
  /-- The tree is nested too deeply for the compiler. -/
  | deepTree
  /-- A replacement field that would need a backslash. -/
  | backslashInField
  deriving DecidableEq, Repr

/-- The wording of a breakdown. -/
def Breakdown.message : Breakdown → String
  | .nullCharacter => "source code string cannot contain null bytes"
  | .deepText => ""
  | .deepTree => "maximum recursion depth exceeded during ast construction"
  | .backslashInField => "Unable to avoid backslash in f-string expression part"

/-- What the host of a program reports about it. -/
structure HostOutcome where
  exception : Option String
  returnValue : Option String
  deriving DecidableEq, Repr, Inhabited

/-- A suggestion for what to type. -/
structure Candidate where
  label : String
  kind : String
  insertText : Option String
  documentation : Option String
  deriving DecidableEq, Repr, Inhabited

/-- What is known about a name. -/
structure Introspection where
  name : String
  kind : String
  signature : Option String
  documentation : Option String
  deriving DecidableEq, Repr, Inhabited

/-- What a started program will do, told in the time since it was launched. -/
structure HostPlan (τ : Type) where
  /-- When its own code begins to run. -/
  startup : τ
  /-- How long its own code runs. -/
  duration : τ
  exitStatus : Int
  /-- The status with which its host ends instead of getting it started. -/
  crash : Option Int
  /-- What it has written by a time. -/
  output : τ → String
  /-- What its host reports in the end. -/
  outcome : Option HostOutcome

/-- A toolchain. -/
structure Toolchain (τ : Type) where
  compile : String → Mode → Except Breakdown Compilation
  /-- When a compilation is done that starts now. -/
  compileTime : Completion τ
  /-- Whether programs can be started at all. -/
  canLaunch : Bool
  host : HostPlan τ
  complete : String → Int → List Candidate
  inspect : String → Int → Except Breakdown (Option Introspection)

end Playground
