import Playground.Diagnostic.Mapping
import Playground.Run.FileTree
import Playground.Toolchain.Basic

/-!
# States and outcomes of runs

A run compiles, then runs, and then has succeeded or failed. It may run out of either of its two
budgets on the way: the one for compiling and starting up, and the one for the program itself.
-/

namespace Playground

/-- The states of a run. -/
inductive RunState where
  | pending
  | compiling
  | running
  | succeeded
  | failed
  | infrastructureTimedOut
  | userCodeTimedOut
  deriving DecidableEq, Repr

/-- The name of a state. -/
def RunState.name : RunState → String
  | .pending => "pending"
  | .compiling => "compiling"
  | .running => "running"
  | .succeeded => "succeeded"
  | .failed => "failed"
  | .infrastructureTimedOut => "infrastructure_timed_out"
  | .userCodeTimedOut => "user_code_timed_out"

/-- The two budgets of a run, in seconds. -/
structure RunBudget (τ : Type) where
  infrastructure : τ
  userCode : τ
  deriving DecidableEq, Repr

/-- A budget given in milliseconds. -/
def RunBudget.ofMilliseconds {τ : Type} [TimeScale τ] (infrastructure userCode : Int) :
    RunBudget τ :=
  ⟨TimeScale.ofMilliseconds infrastructure, TimeScale.ofMilliseconds userCode⟩

/-- What a run yields that did not run out of time. -/
structure RunResult where
  succeeded : Bool
  output : String
  exception : Option String
  returnValue : Option String
  diagnostics : List Diagnostic
  deriving DecidableEq, Repr

/-- Why a run yields nothing. -/
inductive RunFailure (τ : Type) where
  | compilationTimedOut (budget : τ)
  | startTimedOut (budget : τ) (output : String)
  | userCodeTimedOut (budget : τ) (output : String)
  /-- The host ended before the program ran. -/
  | hostEnded (status : Int) (output : String)
  | file (error : FileError)
  | missing (buffer : Missing)
  | breakdown (cause : Breakdown)
  deriving DecidableEq, Repr

namespace RunFailure

/-- How much of the output of a host is told when it ends early. -/
def toldOutput : Nat := 500

/-- The last characters of a text. -/
def lastChars (count : Nat) (text : String) : String :=
  String.ofList (text.toList.drop (text.length - count))

/-- The wording of a failure. Failures of the file system are told by their kind alone. -/
def message {τ : Type} [TimeScale τ] : RunFailure τ → String
  | .compilationTimedOut budget =>
    s!"Compilation did not finish within {TimeScale.text budget}s"
  | .startTimedOut budget _ => s!"Execution host did not start within {TimeScale.text budget}s"
  | .userCodeTimedOut budget _ => s!"Program did not finish within {TimeScale.text budget}s"
  | .hostEnded status output =>
    s!"Execution host exited with status {status} before starting: {lastChars toldOutput output}"
  | .file .nullCharacter => "embedded null byte"
  | .file _ => ""
  | .missing buffer => buffer.message
  | .breakdown cause => cause.message

end RunFailure

end Playground
