import Playground.Text.Printable
import Playground.Text.Quoted

/-!
# Quotes that need few escapes

A text inside a replacement field must not hold a backslash, and even elsewhere in a formatted text
it is better to find quotes that spare it. The quotes are tried in an order: the single ones, the
double ones, and then the tripled ones, in which a line can end. A quote fits if it does not occur in
the text. If none fits, everything is escaped after all.
-/

namespace Playground.Source.Printer

/-- All quotes, the best first. -/
def allQuotes : List String := ["'", "\"", "\"\"\"", "'''"]

/-- A character of a text for which quotes are to be found. Line feeds and tabs stand for themselves
unless `spaced`. -/
def sparing (spaced : Bool) (c : Char) : List Char :=
  if !spaced && (c == '\n' || c == '\t') then [c]
  else if c == '\\' || !Text.isPrintable c then Text.quoteChar (fun _ => false) '\'' c
  else [c]

/-- Whether a quote is tripled. -/
def isTripled (quote : String) : Bool := quote.length = 3

/-- Whether a text holds another. -/
def holds (part : List Char) : List Char → Bool
  | [] => part.isEmpty
  | c :: rest => part.isPrefixOf (c :: rest) || holds part rest

/-- A text with the quotes of a list that can stand around it, the best first. -/
def withQuotes (quotes : List String) (spaced : Bool) (text : String) : String × List String :=
  let chars := text.toList.flatMap (sparing spaced)
  let fitting := quotes.filter fun q =>
    (isTripled q || !chars.contains '\n') && !holds q.toList chars
  match fitting with
  | [] =>
    let quoted := Text.quoted text
    let mark := quoted.toList.take 1
    (String.ofList ((quoted.toList.drop 1).dropLast),
      [(quotes.find? fun q => holds mark q.toList).getD (String.ofList mark)])
  | _ =>
    match chars.getLast? with
    | none => ("", fitting)
    | some last =>
      let clashes (q : String) : Bool := q.toList.head? == some last
      let best := fitting.filter (!clashes ·) ++ fitting.filter clashes
      if best.head?.any clashes then (String.ofList (chars.dropLast ++ ['\\', last]), best)
      else (String.ofList chars, best)

/-- A text between the best quotes. -/
def inBestQuotes (text : String) : String :=
  let (body, quotes) := withQuotes allQuotes false text
  let quote := quotes.headD "'"
  quote ++ body ++ quote

/-- Finds quotes for the parts of a text that are to stand between the same quotes. A part that is
literal may escape its white space. There is none if the parts leave no quotes. -/
def commonQuotes : List String → List (String × Bool) → Option (String × List String)
  | quotes, [] => some ("", quotes)
  | quotes, (part, literal) :: parts =>
    let (body, left) := withQuotes quotes literal part
    if left.any quotes.contains then
      (commonQuotes left parts).map fun (rest, last) => (body ++ rest, last)
    else none

/-- The parts of a formatted text between quotes. -/
def inCommonQuotes (parts : List (String × Bool)) : String :=
  match commonQuotes allQuotes parts with
  | some (body, quotes) =>
    let quote := quotes.headD "'"
    quote ++ body ++ quote
  | none =>
    let body := parts.flatMap fun (part, _) =>
      part.toList.flatMap (Text.quoteChar Text.isPrintable '\'')
    String.ofList ("'''".toList ++ body ++ "'''".toList)

end Playground.Source.Printer
