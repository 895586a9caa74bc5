import Playground.Completion.Distinct
import Playground.Source.Keyword
import Playground.Text.Blank
import Playground.Text.Digit
import Playground.Text.Pieces
import Playground.Text.Word

/-!
# Names that a text binds

Completion has to know the names of a text that cannot be parsed, because it is being typed. The text
is searched three times: for imports of modules, for imports of attributes from a module, and for
definitions and assignments. Each of them begins with a line, whatever block it is in, and what is
read of it does not go beyond the line. The names are those that were found, in the order of their
places, and of the searches where these are the same. Of two bindings of a name the first counts.
-/

namespace Playground

/-- What a text binds a name to. -/
inductive Binding where
  /-- A module. -/
  | module (name : String)
  /-- An attribute of a module, or a module in a package. -/
  | attribute (module name : String)
  /-- Something of the text's own. -/
  | own
  deriving DecidableEq, Repr

namespace Binding

/-- The white space before and between the words of a statement. -/
def isGap (c : Char) : Bool :=
  c == ' ' || c == '\t'

/-- What follows a word and the white space after it, of which there must be some. -/
def afterWord? (word : String) (line : List Char) : Option (List Char) :=
  if word.toList.isPrefixOf line then
    let rest := line.drop word.length
    if rest.head?.any isGap then some (rest.dropWhile isGap) else none
  else none

/-- The name at the start of a line and what follows it. -/
def name? (line : List Char) : Option (String × List Char) :=
  match line with
  | [] => none
  | c :: _ =>
    if Text.isWord c && !Text.isDecimal c then
      some (String.ofList (line.takeWhile Text.isWord), line.dropWhile Text.isWord)
    else none

/-- A name in a list of imports, with its alias. Words behind these are passed over. -/
def item? (piece : List Char) : Option (String × Option String) :=
  match (Text.words piece).map String.ofList with
  | [] => none
  | name :: word :: asName :: _ => some (name, if word = "as" then some asName else none)
  | name :: _ => some (name, none)

/-- The names in a list of imports, each with its alias. -/
def splitNames (text : List Char) : List (String × Option String) :=
  (Text.pieces ',' text).filterMap item?

/-- The first component of the dotted name of a module. -/
def topModule (name : String) : String :=
  String.ofList (name.toList.takeWhile (· != '.'))

/-- What an imported module is bound to. Without an alias it is known by its first component. -/
def ofModule : String × Option String → String × Binding
  | (name, some asName) => (asName, .module name)
  | (name, none) => (topModule name, .module (topModule name))

/-- Whether the dotted name of a module goes on. -/
def inModuleName (c : Char) : Bool :=
  Text.isWord c || c == '.'

/-- Whether a list of imported modules goes on. -/
def inModuleList (c : Char) : Bool :=
  c != '\n' && c != '#' && c != ';'

/-- Whether what stands between a name and an equals sign goes on. -/
def inAnnotation (c : Char) : Bool :=
  c != '\n' && c != '='

/-- Whether a list of imported attributes goes on. -/
def inAttributeList (c : Char) : Bool :=
  inModuleList c && c != ')'

/-- The modules that a line imports. -/
def ofImport (line : List Char) : List (String × Binding) :=
  match afterWord? "import" line with
  | none => []
  | some list => (splitNames (list.takeWhile inModuleList)).map ofModule

/-- The list of attributes in what follows the word for an import, without the parenthesis that
opens it if there is something behind it. -/
def attributeList (list : List Char) : List Char :=
  let bare := list.takeWhile inAttributeList
  match bare with
  | '(' :: rest => if rest.isEmpty then bare else rest
  | _ => bare

/-- The attributes that a line imports from a module. -/
def ofImportFrom (line : List Char) : List (String × Binding) :=
  match afterWord? "from" line with
  | none => []
  | some source =>
    let module := source.takeWhile inModuleName
    let rest := source.dropWhile inModuleName
    if module.isEmpty || !rest.head?.any isGap then []
    else
      match afterWord? "import" (rest.dropWhile isGap) with
      | none => []
      | some list =>
        (splitNames (attributeList list)).map fun (name, asName) =>
          (asName.getD name, .attribute (String.ofList module) name)

/-- The name behind one of the words that begin a definition. -/
def heading? (line : List Char) : Option String :=
  match afterWord? "def" line <|> afterWord? "class" line with
  | none => none
  | some rest => (name? rest).map Prod.fst

/-- The function or class that a line defines. -/
def defined? (line : List Char) : Option String :=
  heading? ((afterWord? "async" line).getD line)

/-- Whether an assignment follows: an equals sign that is not doubled, perhaps after an annotation. -/
def isAssignment (rest : List Char) : Bool :=
  let target := rest.dropWhile isGap
  let target := if target.head?.any (· == ':') then target.dropWhile inAnnotation else target
  target.head?.any (· == '=') && !target.tail.head?.any (· == '=')

/-- The name that a line assigns to. -/
def assigned? (line : List Char) : Option String :=
  match name? line with
  | none => none
  | some (name, rest) => if isAssignment rest then some name else none

/-- What a line defines or assigns to. -/
def ofDefinition (line : List Char) : List (String × Binding) :=
  match defined? line <|> assigned? line with
  | none => []
  | some name => if Source.isKeyword name then [] else [(name, .own)]

/-! ## Searching a text -/

/-- The places in a text at which lines begin after the first one, for a text that begins at place
`n`, each with what stands there. Only line feeds end a line here. -/
def beginningsFrom (n : Nat) : List Char → List (Nat × List Char)
  | [] => []
  | c :: rest =>
    if c = '\n' then (n + 1, rest) :: beginningsFrom (n + 1) rest else beginningsFrom (n + 1) rest

/-- The places at which the lines of a text begin, each with what stands there. -/
def beginnings (text : List Char) : List (Nat × List Char) :=
  (0, text) :: beginningsFrom 0 text

/-- What a statement binds wherever it begins a line, with the place. The white space in front is
passed over. -/
def search (statement : List Char → List (String × Binding)) (text : List Char) :
    List (Nat × String × Binding) :=
  (beginnings text).flatMap fun (place, rest) =>
    (statement (rest.dropWhile isGap)).map (place, ·)

/-- Everything that a text binds, search by search. -/
def found (text : List Char) : List (Nat × String × Binding) :=
  search ofImport text ++ search ofImportFrom text ++ search ofDefinition text

/-- The names that a text binds, in the order of their first bindings. -/
def ofText (text : List Char) : List (String × Binding) :=
  Completion.firsts Prod.fst
    (((found text).mergeSort fun a b => a.1 ≤ b.1).map Prod.snd)

end Binding

end Playground
