import Playground.Text.Blank
import Playground.Text.Pieces

/-!
# Text without its margin

Documentation is written with the indentation of the code around it, which does not belong to it.
The margin is the least indentation of the lines after the first; blank lines do not count. The first
line begins where it happens to begin, so that it loses its whole indentation.
-/

namespace Playground.Text

/-- The distance between tab stops. -/
def tabStop : Nat := 8

/-- Replaces tabs by spaces up to the next tab stop, beginning in a column. -/
def expandTabs : Nat → List Char → List Char
  | _, [] => []
  | column, '\t' :: rest =>
    let width := tabStop - column % tabStop
    List.replicate width ' ' ++ expandTabs (column + width) rest
  | column, c :: rest =>
    c :: expandTabs (if c = '\n' ∨ c = '\r' then 0 else column + 1) rest

/-- The indentation of a line, unless the line is blank. -/
def indentation? (line : List Char) : Option Nat :=
  let indent := line.takeWhile isBlank
  if indent.length = line.length then none else some indent.length

/-- Takes the margin away from lines, and the empty lines before and after them. -/
def withoutMargin (lines : List (List Char)) : List (List Char) :=
  match lines with
  | [] => []
  | first :: rest =>
    let rest :=
      match (rest.filterMap indentation?).min? with
      | none => rest
      | some margin => rest.map (·.drop margin)
    let lines := first.dropWhile isBlank :: rest
    ((lines.reverse.dropWhile List.isEmpty).reverse).dropWhile List.isEmpty

/-- Documentation without its margin. -/
def cleanText (text : String) : String :=
  let lines := withoutMargin (pieces '\n' (expandTabs 0 text.toList))
  "\n".intercalate (lines.map String.ofList)

end Playground.Text
