import Playground.Diagnostic.Basic
import Playground.Source.Fault
import Playground.Text.LineTable

/-!
# Reports of faults and warnings

Syntax faults and warnings of a compiler tell places by line and column. A report tells them by
offset, and stays within the text whatever lines and columns it is made from.
-/

namespace Playground.Report

open Source Text

/-- The identifier of a fault of each family. -/
def faultId : FaultKind → String
  | .syntaxError => "PY1001"
  | .indentationError => "PY1002"
  | .tabError => "PY1003"

/-- What a fault says. Without a message it tells the line. -/
def faultMessage (f : SyntaxFault) : String :=
  match f.message, f.line with
  | none, none => "None"
  | none, some line => s!"None (line {line})"
  | some "", some line => s!" (line {line})"
  | some message, _ => message

/-- A number, or one if it is missing or zero. -/
def orOne : Option Int → Int
  | none | some 0 => 1
  | some n => n

/-- The report of a syntax fault. -/
def ofFault (t : LineTable) (f : SyntaxFault) : Report :=
  let start := t.offset (orOne f.line) (orOne f.offset - 1)
  let stop :=
    match f.endLine, f.endOffset with
    | some line, some column =>
      if line ≠ 0 ∧ 0 < column then max (t.offset line (column - 1)) start else start
    | _, _ => start
  .placedError (faultId f.kind) (faultMessage f) start stop

/-- The report of a warning on a line. -/
def ofWarning (t : LineTable) (isSyntax : Bool) (message : String) (line : Int) : Report :=
  let start := t.offset line 0
  .placedWarning (if isSyntax then "PY2001" else "PY2000") message start
    (start + (t.lineText line).length)

end Playground.Report
