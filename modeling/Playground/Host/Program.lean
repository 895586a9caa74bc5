import Playground.Clock.Time
import Playground.Host.Control
import Playground.Host.Exception
import Playground.Mode.Basic
import Playground.Run.FileTree

/-!
# Programs

A program as the list of things it does, and what its host makes of it. The host says that it is
ready, runs the program, and reports either the exception that ended it or the value it returned. If
that value has no text, the exception for it is reported; if an exception cannot be described, there
is no report, and the host ends with what describing it raised.

A script does its actions at the top of its module; if the last one is an expression, its value is
what the script returns. A program does some actions while it is loaded, and the others in its entry
point, whose return value counts. A module or an entry point that awaits something runs as a
coroutine, which an end of iteration cannot leave.
-/

namespace Playground.Host

/-- What a program does in one step. -/
inductive Action (τ : Type) where
  | print (value : Value)
  | writeLine (values : List Value)
  | write (values : List Value)
  | readLine
  | writeError (text : String)
  | writeBytes (bytes : List UInt8)
  | printName
  | printFile (path : String)
  | raise (type : String) (args : List Value)
  | raiseDefined (type : String) (args : List Value)
  /-- Ends the process at once. -/
  | exit (status : Int)
  /-- Sends a signal to the process. -/
  | signal (number : Int)
  | sleep (seconds : τ)
  | await
  | pass
  /-- A value; in an entry point, its return value. -/
  | value (value : Value)

/-- A program. -/
structure Program (τ : Type) where
  mode : Mode
  /-- What is done while the module is loaded, before the entry point is called. -/
  load : List (Action τ)
  /-- What a script does, or the entry point of a program. -/
  body : List (Action τ)
  isAsync : Bool

/-- How a list of actions, or a whole program, ends. -/
inductive Ending where
  /-- It went on to its end; the value is that of its last action. -/
  | finished (value : Value)
  | returned (value : Value)
  | raised (e : Exception)
  /-- The process ended at once, with a status. -/
  | ended (status : Int)
  /-- The process was stopped, and never goes on. -/
  | stopped

/-- What is left open of the interpreter that runs a program. -/
structure Interpreter where
  /-- How deeply values in values can be shown somewhere: what is left of the stack. -/
  room : Site → Nat
  /-- What is written of an exception that ends the host, by how the program ended. -/
  crashText : Ending → Exception → String

/-- What a running program has to do with. -/
structure Machine (τ : Type) where
  interpreter : Interpreter
  input : List Char
  files : FileTree
  /-- The time since the start. -/
  elapsed : τ
  /-- What was written, and when; the last piece first. -/
  written : List (τ × List UInt8)

/-- What came of doing actions. -/
structure Execution (τ : Type) where
  /-- The actions that were begun, in order. -/
  begun : List (Action τ)
  machine : Machine τ
  ending : Ending

/-- What an action depends on besides the machine. -/
structure Setting where
  moduleName : String
  /-- Whether the action is one of the entry point. -/
  inEntry : Bool
  /-- Whether it is one of a coroutine. -/
  isCoroutine : Bool
  /-- Whether that coroutine was interrupted before. -/
  isInterrupted : Bool

namespace Machine

variable {τ : Type} [TimeScale τ]

/-- Writes bytes. -/
def emit (m : Machine τ) (bytes : List UInt8) : Machine τ :=
  { m with written := (m.elapsed, bytes) :: m.written }

/-- Writes a text. -/
def emitText (m : Machine τ) (text : String) : Machine τ :=
  m.emit text.toUTF8.toList

/-- A line of the input without its end. -/
def takeLine (m : Machine τ) : List Char × Machine τ :=
  let line := m.input.takeWhile (· ≠ '\n')
  (line, { m with input := m.input.drop (line.length + 1) })

/-- Writes a text, or raises the exception for a value that has none. -/
def print (m : Machine τ) (stop : String) : Except ShowError String → Machine τ × Ending
  | .ok text => (m.emitText (text ++ stop), .finished .none)
  | .error e => (m, .raised (.ofShowError e))

/-- Everything written up to a time. -/
def writtenBy (m : Machine τ) (time : τ) : List UInt8 :=
  (m.written.reverse.filter fun p => p.1 ≤ time).flatMap (·.2)

end Machine

namespace Action

variable {τ : Type} [TimeScale τ]

/-- A text in which every line ends with a line feed. -/
def plainLines : List Char → List Char
  | [] => []
  | '\r' :: '\n' :: rest => '\n' :: plainLines rest
  | c :: rest => (if c = '\r' then '\n' else c) :: plainLines rest

/-- What a console function does: it prints one value at most. -/
def writeConsole (s : Setting) (m : Machine τ) (function stop : String) :
    List Value → Machine τ × Ending
  | [] => m.print stop (.ok "")
  | [v] => m.print stop (v.printed (m.interpreter.room (.console s.inEntry s.isCoroutine)))
  | vs =>
    (m, .raised (.ofMessage "TypeError"
      s!"Console.{function}() takes from 0 to 1 positional arguments but {vs.length} were given"))

/-- Signals that change nothing: those that do nothing, those that are ignored, and those that would
stop a process if it belonged to a terminal. -/
def survivedSignals : List Int := [0, 13, 17, 18, 20, 21, 22, 23, 25, 28]

/-- The signal that interrupts a program with an exception. -/
def interruptSignal : Int := 2

/-- The signal that stops a process without ending it. -/
def stopSignal : Int := 19

/-- The signal of the highest number. -/
def lastSignal : Int := 64

/-- The exception of a program that is interrupted. -/
def interruption : Exception := .plain "KeyboardInterrupt" []

/-- Sends a signal to the process. A coroutine takes note of its first interruption and goes on. -/
def send (s : Setting) (number : Int) : Ending :=
  if number < 0 ∨ lastSignal < number then
    .raised (.thrown "OSError" [.int 22, .text "Invalid argument"])
  else if survivedSignals.contains number then .finished .none
  else if number = stopSignal then .stopped
  else if number = interruptSignal then
    if s.isCoroutine && !s.isInterrupted then .finished .none else .raised interruption
  else .ended (-number)

/-- Ends the process with the last eight bits of a status, which must fit into thirty-two. -/
def leave (status : Int) : Ending :=
  if -0x80000000 ≤ status ∧ status < 0x80000000 then .ended (status % 256)
  else .raised (.ofMessage "OverflowError" "Python int too large to convert to C int")

/-- Does one action, at the top of a module or in its entry point. A coroutine that was interrupted
ends where it awaits something. -/
def run (s : Setting) (m : Machine τ) : Action τ → Machine τ × Ending
  | .print v => m.print "\n" (v.printed (m.interpreter.room (.print s.inEntry s.isCoroutine)))
  | .writeLine vs => writeConsole s m "WriteLine" "\n" vs
  | .write vs => writeConsole s m "Write" "" vs
  | .readLine =>
    let (line, m) := m.takeLine
    (m.emitText (Text.quoted (String.ofList line) ++ "\n"), .finished .none)
  | .writeError text => (m.emitText text, .finished (.int text.length))
  | .writeBytes bytes => (m.emit bytes, .finished (.int bytes.length))
  | .printName => (m.emitText (s.moduleName ++ "\n"), .finished .none)
  | .printFile path =>
    match m.files.find? (FileName.components path.toList) with
    | some (.file text) =>
      (m.emitText (String.ofList (plainLines text.toList) ++ "\n"), .finished .none)
    | some .directory =>
      (m, .raised (.thrown "OSError" [.int 21, .text "Is a directory", .text path]))
    | none =>
      (m, .raised (.thrown "OSError" [.int 2, .text "No such file or directory", .text path]))
  | .raise type args =>
    match Exception.typeNamed? type with
    | none => (m, .raised (.ofMessage "NameError" s!"name '{type}' is not defined"))
    | some type => (m, .raised (.thrown type args))
  | .raiseDefined type args =>
    (m, .raised
      (.ofDefined s.moduleName (if s.inEntry then s!"main.<locals>.{type}" else type) args))
  | .exit status => (m, leave status)
  | .signal number => (m, send s number)
  | .sleep seconds =>
    if seconds < 0 then
      (m, .raised (.ofMessage "ValueError" "sleep length must be non-negative"))
    else ({ m with elapsed := m.elapsed + seconds }, .finished .none)
  | .await => (m, if s.isInterrupted then .raised interruption else .finished .none)
  | .pass => (m, .finished .none)
  | .value v => (m, if s.inEntry then .returned v else .finished v)

/-- Whether an action awaits something. -/
def isAwait : Action τ → Bool
  | .await => true
  | _ => false

/-- Whether an action interrupts the program. -/
def isInterruption : Action τ → Bool
  | .signal number => number == interruptSignal
  | _ => false

/-- The setting after an action. -/
def settingAfter (s : Setting) (a : Action τ) : Setting :=
  { s with isInterrupted := s.isInterrupted || a.isInterruption }

/-- Does actions in order; `last` is the value of what was done before. -/
def runAll (s : Setting) (m : Machine τ) (last : Value) : List (Action τ) → Execution τ
  | [] => ⟨[], m, .finished last⟩
  | a :: rest =>
    match a.run s m with
    | (m, .finished v) =>
      let done := runAll (settingAfter s a) m v rest
      { done with begun := a :: done.begun }
    | (m, ending) => ⟨[a], m, ending⟩

end Action

/-- What leaves a coroutine: an end of iteration is an error there, and a coroutine that was
interrupted does not return. -/
def Ending.leavingCoroutine (interrupted : Bool) : Ending → Ending
  | .finished v => if interrupted then .raised Action.interruption else .finished v
  | .returned v => if interrupted then .raised Action.interruption else .returned v
  | .raised e =>
    if e.isOf "StopIteration" then
      .raised (.ofMessage "RuntimeError" "coroutine raised StopIteration")
    else .raised e
  | .ended status => .ended status
  | .stopped => .stopped

/-- An entry point returns at its end. -/
def Ending.ofEntry : Ending → Ending
  | .finished _ => .returned .none
  | ending => ending

/-- Does the actions of a module or of an entry point, which may be a coroutine. -/
def Execution.ofActions {τ : Type} [TimeScale τ] (moduleName : String) (inEntry isCoroutine : Bool)
    (m : Machine τ) (actions : List (Action τ)) : Execution τ :=
  let done := Action.runAll ⟨moduleName, inEntry, isCoroutine, false⟩ m .none actions
  let ending := if inEntry then done.ending.ofEntry else done.ending
  { done with
    ending :=
      if isCoroutine then ending.leavingCoroutine (done.begun.any Action.isInterruption)
      else ending }

namespace Program

variable {τ : Type} [TimeScale τ]

/-- Runs a program. The entry point is called once the module has been loaded; what loading comes
to does not count. -/
def run (p : Program τ) (m : Machine τ) : Execution τ :=
  let module := p.mode.moduleName
  match p.mode with
  | .script => .ofActions module false (p.body.any Action.isAwait) m p.body
  | .program =>
    let loaded := Execution.ofActions module false false m p.load
    match loaded.ending with
    | .finished _ =>
      let done := Execution.ofActions module true p.isAsync loaded.machine p.body
      { done with begun := loaded.begun ++ done.begun }
    | _ => loaded

/-- Whether an exception asks for a normal end: an exit with nothing, or with a zero. -/
def isNormalExit (e : Exception) : Bool :=
  e.isOf "SystemExit" &&
    match e.args with
    | [] => true
    | [.none] => true
    | [code] => code.asInt? == some 0
    | _ => false

/-- The report on an exception, or the exception that describing it raises. -/
def reportException (room : Site → Nat) (e : Exception) : Except Exception HostOutcome :=
  if isNormalExit e then .ok ⟨none, none⟩ else (e.describe room).map fun text => ⟨some text, none⟩

/-- The report on a value. One without a text counts as the exception for it. -/
def reportValue (room : Site → Nat) : Value → Except Exception HostOutcome
  | .none => .ok ⟨none, none⟩
  | v =>
    match v.shown (room .report) with
    | .ok text => .ok ⟨none, some text⟩
    | .error e => reportException room (.ofShowError e)

/-- The report on an ending. -/
def report (room : Site → Nat) : Ending → Except Exception HostOutcome
  | .finished v | .returned v => reportValue room v
  | .raised e => reportException room e
  | .ended _ | .stopped => .ok ⟨none, none⟩

/-- What a host and its program do, as far as the order matters. -/
inductive Event (τ : Type) where
  /-- The host writes a line on its channel. -/
  | line (text : String)
  /-- The program begins an action. -/
  | action (a : Action τ)

/-- The line that an event adds to the channel. -/
def Event.line? : Event τ → Option String
  | .line text => some text
  | .action _ => none

/-- What is seen of a host from outside. -/
structure Trace (τ : Type) where
  /-- What is done, in order. -/
  events : List (Event τ)
  /-- The status with which the process ends. -/
  status : Int
  /-- Whether it ends at all. -/
  ends : Bool
  machine : Machine τ

/-- The text of the channel. -/
def Trace.channel (t : Trace τ) : String :=
  String.join ((t.events.filterMap Event.line?).map (· ++ "\n"))

/-- What is seen of a host by what came of its program. A process that ends at once, or is stopped,
does not report, and neither does a host that cannot describe the exception. -/
def Trace.ofExecution (i : Interpreter) (done : Execution τ) : Trace τ :=
  let events := .line Control.ready :: done.begun.map Event.action
  match done.ending with
  | .ended status => ⟨events, status, true, done.machine⟩
  | .stopped => ⟨events, 0, false, done.machine⟩
  | ending =>
    match report i.room ending with
    | .ok outcome => ⟨events ++ [.line (Control.reportLine outcome)], 0, true, done.machine⟩
    | .error e => ⟨events, 1, true, done.machine.emitText (i.crashText ending e)⟩

/-- Hosts a program. -/
def host (p : Program τ) (m : Machine τ) : Trace τ :=
  .ofExecution m.interpreter (p.run m)

end Program

end Playground.Host
