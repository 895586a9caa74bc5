import Playground.Text.Blank
import Playground.Workspace.Refusal

/-!
# Using directives

A using directive is an import statement, or the dotted name of a module to import. It stays on one
line.
-/

namespace Playground.Using

/-- A letter or an underscore of ASCII. -/
def isNameStart (c : Char) : Bool :=
  c.isAlpha || c == '_'

/-- A letter, a digit or an underscore of ASCII. -/
def isNameContinue (c : Char) : Bool :=
  c.isAlphanum || c == '_'

/-- Whether a text continues a dotted name; `fresh` at the start of a component. -/
def continuesName : Bool → List Char → Bool
  | fresh, [] => !fresh
  | true, c :: rest => isNameStart c && continuesName false rest
  | false, c :: rest =>
    if c = '.' then continuesName true rest else isNameContinue c && continuesName false rest

/-- Names of ASCII letters, digits and underscores, joined by dots. -/
def isDottedName (text : List Char) : Bool :=
  continuesName true text

/-- The import statement of a using directive. -/
def statement (directive : String) : Except Refusal String :=
  let text := Text.trim directive.toList
  if text.isEmpty || text.contains '\n' || text.contains '\r' then .error (.badUsing directive)
  else if "import ".toList.isPrefixOf text || "from ".toList.isPrefixOf text then
    .ok (String.ofList text)
  else if isDottedName text then .ok ("import " ++ String.ofList text)
  else .error (.badUsing directive)

end Playground.Using
