import Playground.Json.Printer
import Playground.Json.Reader
import Playground.Text.Blank
import Playground.Toolchain.Basic

/-!
# The control channel

The host of a program says on a channel of its own when the program begins to run, and reports in
the end what became of it. Each message is a line: a word, or a JSON object.

- `Control.reportLine` writes a report; it stays on one line whatever the texts in it are.
- `Control.read` reads a channel. A line that is no JSON ends it, and JSON that is no report breaks
  it.
-/

namespace Playground.Host

/-- What is wrong with a report. -/
inductive ReportError where
  /-- A report is an object, and this is of another type. -/
  | notObject (type : String)
  | unknownField (name : String)
  deriving DecidableEq, Repr

/-- The wording of a broken report. -/
def ReportError.message : ReportError → String
  | .notObject type =>
    s!"tryexec.toolchain.base.HostOutcome() argument after ** must be a mapping, not {type}"
  | .unknownField name => s!"HostOutcome.__init__() got an unexpected keyword argument '{name}'"

/-- A report as it was read; its fields can be any values. -/
structure ControlReport where
  exception : Json
  returnValue : Json
  deriving Inhabited

/-- What is known from a channel. -/
structure ControlState where
  started : Bool
  report : Option ControlReport
  error : Option ReportError

namespace Control

/-- The line that says that the program begins to run. -/
def ready : String := "ready"

/-- The fields of a report. -/
def reportFields (outcome : HostOutcome) : List (String × Json) :=
  (outcome.returnValue.map fun t => ("return_value", Json.text t)).toList ++
    (outcome.exception.map fun t => ("exception", Json.text t)).toList

/-- The line of a report. -/
def reportLine (outcome : HostOutcome) : String :=
  String.ofList (Json.print (.object (reportFields outcome)))

/-- The text of the channel of a host that has reported. -/
def channel (outcome : HostOutcome) : String :=
  ready ++ "\n" ++ reportLine outcome ++ "\n"

/-- The lines of a text, which end with a carriage return, a line feed, or one of each in that
order. -/
def lines : List Char → List (List Char)
  | [] => [[]]
  | '\r' :: '\n' :: rest => [] :: lines rest
  | c :: rest =>
    if c = '\r' ∨ c = '\n' then [] :: lines rest
    else
      match lines rest with
      | [] => [[c]]
      | l :: ls => (c :: l) :: ls

/-- The name of the type of a value. -/
def typeName : Json → String
  | .null => "NoneType"
  | .bool _ => "bool"
  | .int _ => "int"
  | .float _ => "float"
  | .text _ => "str"
  | .list _ => "list"
  | .object _ => "dict"

/-- A report in a JSON value. -/
def ofJson : Json → Except ReportError ControlReport
  | .object fields =>
    match fields.find? fun f => f.1 != "exception" && f.1 != "return_value" with
    | some (name, _) => .error (.unknownField name)
    | none => .ok ⟨(Json.field? fields "exception").getD .null,
        (Json.field? fields "return_value").getD .null⟩
  | v => .error (.notObject (typeName v))

/-- How deeply the values of a report may be nested. -/
def maxDepth : Nat := 900

/-- Reads lines of a channel, after those that `s` tells of. -/
def readLines (s : ControlState) : List (List Char) → ControlState
  | [] => s
  | line :: rest =>
    let line := Text.trim line
    if line = ready.toList then readLines { s with started := true } rest
    else if line.isEmpty then readLines s rest
    else
      match Json.read? maxDepth line with
      | none => s
      | some v =>
        match ofJson v with
        | .error e => { s with error := some e }
        | .ok report => readLines { s with report := some report } rest

/-- Reads a channel. -/
def read (text : String) : ControlState :=
  readLines ⟨false, none, none⟩ (lines text.toList)

/-- A value that is a text. -/
def text? : Json → Option String
  | .text s => some s
  | _ => none

/-- The outcome that a channel tells of. -/
def outcome? (s : ControlState) : Option HostOutcome :=
  s.report.map fun r => ⟨text? r.exception, text? r.returnValue⟩

end Control

end Playground.Host
