import Playground.Clock.Deadline
import Playground.Run.Handle
import Playground.Run.State
import Playground.Toolchain.Adapter

/-!
# Runs

One run from its compilation to its end. Two deadlines bound it: the first covers compiling and
starting up, and the second one begins when the code of the program does.

Everything that can be told of a run afterwards is in its `RunRecord`. Runs share nothing but the
clock, whose time is handed from one to the next.
-/

namespace Playground

/-- What runs are made with. -/
structure Sandbox (τ : Type) where
  toolchain : Toolchain τ
  defaultBudget : RunBudget τ
  pollInterval : τ

/-- The trace of a run up to some point, and what it has yielded. -/
structure RunRecord (τ α : Type) where
  answer : Except (RunFailure τ) α
  /-- The states that the run went through after being pending, in order. -/
  states : List RunState
  /-- The program that was launched. -/
  handle : Option (Handle τ)
  /-- The files at the launch. -/
  files : FileTree
  now : τ

namespace RunRecord

variable {τ α : Type}

/-- The changes of state of a run. -/
def transitions (r : RunRecord τ α) : List (RunState × RunState) :=
  (RunState.pending :: r.states).zip r.states

end RunRecord

namespace Sandbox

variable {τ : Type} [TimeScale τ]

/-- Compiles a workspace within a deadline. -/
def compile (s : Sandbox τ) (w : Workspace) (infrastructure : Deadline τ) (now : τ) :
    RunRecord τ WorkspaceCompilation :=
  let (inTime, now) := infrastructure.waitFor now s.toolchain.compileTime s.pollInterval
  if inTime then
    { answer := (w.compile s.toolchain).mapError .breakdown
      states := [.compiling], handle := none, files := .empty, now }
  else
    { answer := .error (.compilationTimedOut infrastructure.budget)
      states := [.compiling, .infrastructureTimedOut], handle := none, files := .empty, now }

/-- What is yielded by a program that has ended. Without a report of its host the exit status
decides. -/
def verdict (status : Int) (outcome : Option HostOutcome) (output : String)
    (diagnostics : List Diagnostic) : RunResult :=
  let exception :=
    match outcome with
    | some o => o.exception
    | none => if status = 0 then none else some s!"Process exited with status {status}"
  { succeeded := exception.isNone
    output, exception
    returnValue := outcome.bind (·.returnValue)
    diagnostics }

/-- Waits until the code of a program has begun to run, or the program has ended. -/
def awaitStart (s : Sandbox τ) (infrastructure : Deadline τ) (h : Handle τ) (now : τ) :
    Deadline.Polled τ :=
  infrastructure.poll now (fun now => h.started now || (h.poll now).isSome) s.pollInterval

/-- Waits until a program has ended. -/
def awaitEnd (s : Sandbox τ) (userCode : Deadline τ) (h : Handle τ) (now : τ) :
    Deadline.Polled τ :=
  userCode.poll now (fun now => (h.poll now).isSome) s.pollInterval

/-- Waits for a program whose code has begun to run. -/
def supervise (s : Sandbox τ) (b : RunBudget τ) (h : Handle τ) (diagnostics : List Diagnostic)
    (files : FileTree) (now : τ) : RunRecord τ RunResult :=
  let polled := s.awaitEnd ⟨now, b.userCode⟩ h now
  let now := polled.now
  if polled.held then
    let result := verdict ((h.poll now).getD 0) (h.outcome now) (h.output now) diagnostics
    { answer := .ok result
      states := [.compiling, .running, if result.succeeded then .succeeded else .failed]
      handle := some h.close, files, now }
  else
    { answer := .error (.userCodeTimedOut b.userCode (h.output now))
      states := [.compiling, .running, .userCodeTimedOut]
      handle := some h.kill.close, files, now }

/-- Waits for a program that was launched. -/
def follow (s : Sandbox τ) (b : RunBudget τ) (infrastructure : Deadline τ) (h : Handle τ)
    (diagnostics : List Diagnostic) (files : FileTree) (now : τ) : RunRecord τ RunResult :=
  let polled := s.awaitStart infrastructure h now
  let now := polled.now
  if !polled.held then
    { answer := .error (.startTimedOut infrastructure.budget (h.output now))
      states := [.compiling, .infrastructureTimedOut]
      handle := some h.kill.close, files, now }
  else if h.started now then s.supervise b h diagnostics files now
  else
    { answer := .error (.hostEnded ((h.poll now).getD 0) (h.output now))
      states := [.compiling, .failed]
      handle := some h.close, files, now }

/-- The answer to a workspace that does not compile: its diagnostics, one per line. -/
def rejected (w : Workspace) (diagnostics : List Diagnostic) : Except Missing RunResult := do
  let lines ← diagnostics.mapM (Diagnostic.format w)
  return ⟨false, "\n".intercalate lines, none, none, diagnostics⟩

/-- Lays out the files of a workspace, launches it and follows it. -/
def launch (s : Sandbox τ) (w : Workspace) (b : RunBudget τ) (infrastructure : Deadline τ)
    (diagnostics : List Diagnostic) (now : τ) : RunRecord τ RunResult :=
  let failed (e : FileError) : RunRecord τ RunResult :=
    { answer := .error (.file e)
      states := [.compiling], handle := none, files := .empty, now }
  match FileTree.ofFiles w.files with
  | .error e => failed e
  | .ok files =>
    if s.toolchain.canLaunch then
      s.follow b infrastructure (.launch s.toolchain.host now) diagnostics files now
    else failed .notFound

/-- Compiles and runs a workspace. -/
def run (s : Sandbox τ) (w : Workspace) (budget : Option (RunBudget τ)) (now : τ) :
    RunRecord τ RunResult :=
  let b := budget.getD s.defaultBudget
  let infrastructure : Deadline τ := ⟨now, b.infrastructure⟩
  let compiled := s.compile w infrastructure now
  match compiled.answer with
  | .error e => { compiled with answer := .error e }
  | .ok c =>
    match Diagnostic.mapAll w c.reports with
    | .error m => { compiled with answer := .error (.missing m) }
    | .ok diagnostics =>
      if c.succeeded then s.launch w b infrastructure diagnostics compiled.now
      else
        { compiled with
          answer := (rejected w diagnostics).mapError .missing
          states := [.compiling, .failed] }

/-- Compiles a workspace without running it. -/
def diagnose (s : Sandbox τ) (w : Workspace) (budget : Option (RunBudget τ)) (now : τ) :
    RunRecord τ (List Diagnostic) :=
  let b := budget.getD s.defaultBudget
  let compiled := s.compile w ⟨now, b.infrastructure⟩ now
  { compiled with
    answer := compiled.answer.bind fun c => (Diagnostic.mapAll w c.reports).mapError .missing }

end Sandbox

end Playground
