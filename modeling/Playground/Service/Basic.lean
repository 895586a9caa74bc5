import Playground.Completion.Cursor
import Playground.Config.Basic
import Playground.Run.Sandbox
import Playground.Service.TimeoutHeader
import Playground.Workspace.Normalize

/-!
# The service

Requests and their answers. A request is refused before any work is done for it: the answer is 400,
and the toolchain has not been used. A program that runs too long is the fault of who sent it, and
a compilation or a start that takes too long is the fault of the service.
-/

namespace Playground

/-- A request. -/
structure HttpRequest where
  method : String
  path : String
  headers : List Header
  body : List UInt8
  deriving DecidableEq, Repr

/-- What a toolchain was used for. -/
inductive ToolUse where
  | compiled
  | launched
  | completed
  | inspected
  deriving DecidableEq, Repr

/-- The answer to a request, and what the toolchain was used for. -/
structure HttpAnswer where
  status : Nat
  body : Option Json
  used : List ToolUse

/-- What answers requests. -/
structure Service (τ : Type) where
  sandbox : Sandbox τ
  infrastructureTimeout : Int
  userCodeTimeout : Int
  maxTimeout : Int

namespace Service

/-- An answer with an explanation. -/
def detail (status : Nat) (text : String) (used : List ToolUse) : HttpAnswer :=
  ⟨status, some (.object [("detail", .text text)]), used⟩

/-- The answer to a request that is refused. -/
def refused (cause : Refusal) : HttpAnswer :=
  detail 400 cause.message []

/-- The answer if something breaks that no request should break. -/
def broken (used : List ToolUse) : HttpAnswer :=
  detail 500 "Internal server error" used

/-- A text that may be missing. -/
def optional (text : Option String) : Json :=
  (text.map Json.text).getD .null

/-- A diagnostic in an answer. -/
def diagnosticBody (d : Diagnostic) : Json :=
  .object [("Start", .int d.start), ("End", .int d.stop), ("Message", .text d.message),
    ("Id", .text d.id), ("Severity", .text d.severity), ("BufferId", optional d.bufferId)]

/-- Diagnostics in an answer. -/
def diagnosticsBody (ds : List Diagnostic) : Json :=
  .list (ds.map diagnosticBody)

/-- The result of a run in an answer. -/
def resultBody (r : RunResult) : Json :=
  .object [("Succeeded", .bool r.succeeded), ("Output", .text r.output),
    ("Exception", optional r.exception), ("ReturnValue", optional r.returnValue),
    ("Diagnostics", diagnosticsBody r.diagnostics)]

/-- A suggestion in an answer. -/
def candidateBody (c : Candidate) : Json :=
  .object [("DisplayText", .text c.label), ("Kind", .text c.kind),
    ("InsertText", optional c.insertText), ("Documentation", optional c.documentation)]

/-- What is known about a name, as one text. -/
def inspectionText (i : Introspection) : String :=
  let head := i.name ++ i.signature.getD ""
  match i.documentation with
  | some text => if text.isEmpty then head else head ++ "\n\n" ++ text
  | none => head

/-- What is known about a name in a source, in an answer. -/
def inspectionBody (source : String) (found : Option Introspection) : Json :=
  let (data, metadata) :=
    match found with
    | some i => ([("text/plain", Json.text (inspectionText i))], [("kind", Json.text i.kind)])
    | none => ([], [])
  .object [("Status", .text "ok"), ("Found", .bool found.isSome), ("Source", .text source),
    ("Data", .object data), ("Metadata", .object metadata)]

variable {τ : Type} [TimeScale τ]

/-- The answer to a run that yields nothing. -/
def failure (used : List ToolUse) (f : RunFailure τ) : HttpAnswer :=
  match f with
  | .compilationTimedOut _ | .startTimedOut .. => detail 504 f.message used
  | .userCodeTimedOut _ output =>
    ⟨417, some (resultBody ⟨false, output, some f.message, none, []⟩), used⟩
  | .hostEnded .. => detail 500 "Execution error" used
  | .file _ | .missing _ | .breakdown _ => broken used

/-- What a run has used the toolchain for. -/
def runUse {α : Type} (r : RunRecord τ α) : List ToolUse :=
  if r.handle.isSome then [.compiled, .launched] else [.compiled]

/-- The budgets that the headers of a request ask for. -/
def budget (s : Service τ) (headers : List Header) : Except Refusal (RunBudget τ) := do
  let infrastructure ← timeoutHeader headers "Timeout" s.infrastructureTimeout s.maxTimeout
  let userCode ← timeoutHeader headers "User-Code-Timeout" s.userCodeTimeout s.maxTimeout
  return .ofMilliseconds infrastructure userCode

/-- The workspace and the budgets of a request. -/
def runRequest (s : Service τ) (r : HttpRequest) : Except Refusal (Workspace × RunBudget τ) := do
  let w ← Workspace.ofBytes r.body
  return (w, ← s.budget r.headers)

/-- Runs a workspace. -/
def run (s : Service τ) (r : HttpRequest) (now : τ) : HttpAnswer :=
  match s.runRequest r with
  | .error cause => refused cause
  | .ok (w, b) =>
    let record := s.sandbox.run w (some b) now
    match record.answer with
    | .ok result => ⟨200, some (resultBody result), runUse record⟩
    | .error f => failure (runUse record) f

/-- Compiles a workspace and tells what is wrong with it. -/
def diagnostics (s : Service τ) (r : HttpRequest) (now : τ) : HttpAnswer :=
  match s.runRequest r with
  | .error cause => refused cause
  | .ok (w, b) =>
    let record := s.sandbox.diagnose w (some b) now
    match record.answer with
    | .ok ds => ⟨200, some (.object [("Diagnostics", diagnosticsBody ds)]), runUse record⟩
    | .error f => failure (runUse record) f

/-- Suggests what to type. -/
def completion (s : Service τ) (r : HttpRequest) : HttpAnswer :=
  match Workspace.ofBytes r.body with
  | .error cause => refused cause
  | .ok w =>
    match w.complete s.sandbox.toolchain with
    | .ok cs => ⟨200, some (.object [("Items", .list (cs.map candidateBody))]), [.completed]⟩
    | .error (.refused cause) => refused cause
    | .error (.missing _) => broken []

/-- Tells what is known about the name at the cursor. -/
def inspection (s : Service τ) (r : HttpRequest) : HttpAnswer :=
  match Workspace.ofBytes r.body with
  | .error cause => refused cause
  | .ok w =>
    match w.inspect s.sandbox.toolchain, w.entryBuffer with
    | .ok (.ok found), .ok b => ⟨200, some (inspectionBody b.content found), [.inspected]⟩
    | .ok (.error _), _ | .ok _, .error _ => broken [.inspected]
    | .error (.refused cause), _ => refused cause
    | .error (.missing _), _ => broken []

/-- The paths that are served. -/
inductive Route where
  | health
  | run
  | diagnostics
  | completion
  | inspection
  deriving DecidableEq, Repr

/-- The route of a path. -/
def Route.ofPath? : String → Option Route
  | "/health" => some .health
  | "/workspace/run" => some .run
  | "/workspace/diagnostics" => some .diagnostics
  | "/workspace/completion" => some .completion
  | "/workspace/inspect" => some .inspection
  | _ => none

/-- The method of a route. -/
def Route.method : Route → String
  | .health => "GET"
  | _ => "POST"

/-- A path without slashes at its end. -/
def withoutSlashes (path : String) : String :=
  String.ofList ((path.toList.reverse.dropWhile (· == '/')).reverse)

/-- The answer to a path that is not served. A path with slashes too many is redirected. -/
def unknownPath (path : String) : HttpAnswer :=
  if path.endsWith "/" && (Route.ofPath? (withoutSlashes path)).isSome then ⟨307, none, []⟩
  else detail 404 "Not Found" []

/-- Answers a request. -/
def handle (s : Service τ) (r : HttpRequest) (now : τ) : HttpAnswer :=
  match Route.ofPath? r.path with
  | none => unknownPath r.path
  | some route =>
    if r.method != route.method then detail 405 "Method Not Allowed" []
    else
      match route with
      | .health => ⟨200, some (.object [("status", .text "ok")]), []⟩
      | .run => s.run r now
      | .diagnostics => s.diagnostics r now
      | .completion => s.completion r
      | .inspection => s.inspection r

end Service

end Playground
