/-!
# Keywords

The words that the language reserves everywhere, and those that it reserves in some places only.
-/

namespace Playground.Source

/-- The reserved names: those for values first and then the others in alphabetical order. -/
def keywords : List String :=
  ["False", "None", "True", "and", "as", "assert", "async", "await", "break", "class", "continue",
   "def", "del", "elif", "else", "except", "finally", "for", "from", "global", "if", "import", "in",
   "is", "lambda", "nonlocal", "not", "or", "pass", "raise", "return", "try", "while", "with",
   "yield"]

/-- A reserved name. -/
def isKeyword (name : String) : Bool :=
  keywords.contains name

/-- Names that are reserved in `match` statements only. -/
def softKeywords : List String :=
  ["_", "case", "match"]

end Playground.Source
