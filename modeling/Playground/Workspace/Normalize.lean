import Playground.Json.Reader
import Playground.Workspace.Basic
import Playground.Workspace.FileName
import Playground.Workspace.Request
import Playground.Workspace.Using

/-!
# Normalization

The three shapes of a request become one workspace. Whatever comes out has at least one buffer,
distinct identifiers, distinct canonical file names, and import statements for using directives.
-/

namespace Playground.Workspace

/-- How deeply lists and objects of a request may be nested, the request itself included. -/
def requestDepth : Nat := 201

/-- The buffers of a request. -/
def requestBuffers (r : Request) : Except Refusal (List Buffer) :=
  match r.buffers, r.buffer, r.source with
  | some [], _, _ => .error .noBuffers
  | some bs, _, _ => .ok (bs.map fun b => ⟨b.id, b.content, b.position⟩)
  | none, some content, _ => .ok [⟨"", content, r.position⟩]
  | none, none, some content => .ok [⟨"", content, r.position⟩]
  | none, none, none => .error .noSource

/-- Whether no element occurs twice. -/
def distinct : List String → Bool
  | [] => true
  | x :: rest => !rest.contains x && distinct rest

/-- The kind of a workspace: what was asked for without white space around it, or a script. -/
def kindOf (kind : Option String) : String :=
  let text := String.ofList (Text.trim ((kind.getD "").toList))
  if text = "" then scriptKind else text

/-- A file of a request under its canonical name. -/
def requestFile (f : FileRequest) : Except Refusal WorkspaceFile := do
  return ⟨← FileName.check f.name, f.text⟩

/-- The workspace of a request. -/
def ofRequest (r : Request) : Except Refusal Workspace := do
  let buffers ← requestBuffers r
  let ids := buffers.map (·.id)
  unless distinct ids do throw .repeatedBufferId
  if let some id := r.activeId then
    unless ids.contains id do throw (.unknownActiveBuffer id)
  let files ← (r.files.getD []).mapM requestFile
  unless distinct (files.map (·.name)) do throw .repeatedFileName
  let usings ← (r.usings.getD []).mapM Using.statement
  return { kind := kindOf r.kind, buffers, usings, files, activeId := r.activeId }

/-- The request in a text; whatever is no JSON counts as one mistake. -/
def readRequest (text : List Char) : Except Refusal Request :=
  match Json.read? requestDepth text with
  | none => .error (.unreadable 1)
  | some v => (Request.ofJson v).mapError .unreadable

/-- The workspace of a request body. -/
def ofText (body : String) : Except Refusal Workspace :=
  (readRequest body.toList).bind ofRequest

/-- The workspace of a request body in UTF-8. -/
def ofBytes (body : List UInt8) : Except Refusal Workspace :=
  match String.fromUTF8? (ByteArray.mk body.toArray) with
  | some text => ofText text
  | none => .error (.unreadable 1)

end Playground.Workspace
