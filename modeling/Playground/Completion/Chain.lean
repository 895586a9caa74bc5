import Playground.Text.Blank
import Playground.Text.Digit
import Playground.Text.Word

/-!
# Dotted names before a cursor

A dotted name is a chain of words with dots between them, and with any white space around the dots.
The chain before a cursor is found by going back from it: the word that the cursor is at the end of,
which may be empty, and then a link for every dot. The cost is that of the chain, not of the text
before it.

Calls, subscripts and numerals are not names. A dot that follows one of them, or a word that starts
with a digit, has no chain.
-/

namespace Playground

/-- A dotted name that ends at a cursor. -/
structure Chain where
  /-- The words in front of the dots. -/
  base : List String
  /-- The word at the cursor, as far as it is typed. -/
  typed : String
  deriving DecidableEq, Repr

namespace Chain

/-- A word that can stand in a chain: it is not empty and does not start with a digit. -/
def isName (word : List Char) : Bool :=
  match word with
  | [] => false
  | c :: _ => !Text.isDecimal c

/-- The words in front of the dots that end a text, given in reverse, followed by those found
already. There is none if one of them is no name. -/
def links (reversed : List Char) (found : List String) : Option (List String) :=
  match _ : reversed.dropWhile Text.isBlank with
  | '.' :: before =>
    let word := ((before.dropWhile Text.isBlank).takeWhile Text.isWord).reverse
    if isName word then
      links ((before.dropWhile Text.isBlank).dropWhile Text.isWord) (String.ofList word :: found)
    else none
  | _ => some found
termination_by reversed.length
decreasing_by
  have dot := congrArg List.length ‹reversed.dropWhile Text.isBlank = '.' :: before›
  have skipped := (List.dropWhile_suffix (l := reversed) Text.isBlank).length_le
  have blanks := (List.dropWhile_suffix (l := before) Text.isBlank).length_le
  have letters :=
    (List.dropWhile_suffix (l := before.dropWhile Text.isBlank) Text.isWord).length_le
  simp only [List.length_cons] at dot
  omega

/-- The chain at the end of a text. -/
def before? (text : List Char) : Option Chain :=
  let reversed := text.reverse
  let typed := (reversed.takeWhile Text.isWord).reverse
  match links (reversed.dropWhile Text.isWord) [] with
  | none => none
  | some base =>
    if base.isEmpty && !typed.isEmpty && !isName typed then none
    else some ⟨base, String.ofList typed⟩

/-- All words of a chain. -/
def words (c : Chain) : List String :=
  if c.typed.isEmpty then c.base else c.base ++ [c.typed]

end Chain

end Playground
