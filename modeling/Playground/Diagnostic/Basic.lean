/-!
# Diagnostics

What a toolchain reports about the merged text of a workspace.
-/

namespace Playground

/-- The severity of a report that keeps a text from running. -/
def errorSeverity : String := "error"

/-- The severity of a report that does not. -/
def warningSeverity : String := "warning"

/-- A report about the merged text. One without a start concerns the text as a whole. -/
structure Report where
  severity : String
  id : String
  message : String
  start : Option Int
  stop : Option Int
  deriving DecidableEq, Repr, Inhabited

namespace Report

/-- Whether a report keeps the text from running. -/
def isError (r : Report) : Bool :=
  r.severity == errorSeverity

/-- An error about the text as a whole. -/
def unplacedError (id message : String) : Report :=
  ⟨errorSeverity, id, message, none, none⟩

/-- An error about a part of the text. -/
def placedError (id message : String) (start stop : Nat) : Report :=
  ⟨errorSeverity, id, message, some start, some stop⟩

/-- A warning about a part of the text. -/
def placedWarning (id message : String) (start stop : Nat) : Report :=
  ⟨warningSeverity, id, message, some start, some stop⟩

end Report

end Playground
