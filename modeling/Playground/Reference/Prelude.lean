import Playground.Reference.Entry

/-!
# The prelude

The names that every program starts with: a class for reading and writing lines of text.
-/

namespace Playground.Reference

open Entry

/-- The class `Console`. -/
def consoleClass : ClassTable where
  name := "Console"
  signature := "()"
  documentation := ["Console helpers for writing to and reading from the program's streams."]
  members := [
    staticMethod "ReadLine" "() -> str" [
      "Read the next line from standard input, without its terminator."],
    staticMethod "Write" "(value: object = '') -> None" [
      "Write ``value`` to standard output without a line terminator."],
    staticMethod "WriteLine" "(value: object = '') -> None" [
      "Write ``value`` followed by a line terminator to standard output."],
    accessor "__dict__",
    value "__doc__" "str",
    value "__module__" "str",
    accessor "__weakref__"]

/-- The names that every program starts with. -/
def preludeMembers : Members := [classOf "Console" "Console"]

end Playground.Reference
