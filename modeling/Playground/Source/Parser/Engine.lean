import Playground.Source.Parser.Basic

/-!
# Reading rules

Ties a grammar, which tells how to read each rule given a way to read the others, into a reader.
Nesting is bounded: `read grammar n` reads syntax whose rules are nested at most `n` deep.

An answer that was found is kept. A rule that begins with itself is read several times from the same
place: each time its own answer there is the one found before, at first none, until the answer does
not get longer.
-/

namespace Playground.Source.Parser

/-- A grammar: how to read each rule, given a way to read rules. -/
abbrev Grammar := Reader → Reader

/-- Where the answer of a rule at a place is kept. -/
def answerKey (r : Rule) (mark : Nat) (o : Outlook) : Nat :=
  let view := if r.retention = .separate && o.mistakes then 1 else 0
  (mark * 512 + r.ctorIdx) * 2 + view

/-- The kept answer of a rule, as the outcome of reading it. -/
def keptAnswer? (r : Rule) (key : Nat) (s : ParserState) : Option (Step r.Result) :=
  match s.answers[key]? with
  | some ⟨rule, value, mark⟩ =>
    if h : rule = r then
      match value with
      | some v => some (.done (h ▸ v) { s with mark })
      | none => some (.miss s)
    else none
  | none => none

/-- Keeps an answer. -/
def keep (r : Rule) (key : Nat) (value : Option r.Result) (mark : Nat) (s : ParserState) :
    ParserState :=
  { s with answers := s.answers.insert key ⟨r, value, mark⟩ }

/-- Reads a rule unless its answer here is known. -/
def remembered (r : Rule) (p : Parser r.Result) : Parser r.Result := fun o s =>
  let key := answerKey r s.mark o
  match keptAnswer? r key s with
  | some step => step
  | none =>
    match p o s with
    | .done v s => .done v (keep r key (some v) s.mark s)
    | .miss s => .miss (keep r key none s.mark s)
    | .decline s => .miss (keep r key none s.mark s)
    | .stop w s => .stop w s

/-- Reads a rule again and again from `start`, as long as the answer gets longer. -/
def grow (r : Rule) (p : Parser r.Result) (key start : Nat) :
    Nat → Option r.Result → Nat → Parser r.Result
  | 0, best, best_mark, _, s => finish best best_mark s
  | fuel + 1, best, best_mark, o, s =>
    match p o { keep r key best best_mark s with mark := start } with
    | .done v s =>
      if s.mark ≤ best_mark then finish best best_mark s
      else grow r p key start fuel (some v) s.mark o s
    | .miss s => finish best best_mark s
    | .decline s => finish best best_mark s
    | .stop w s => .stop w s
where
  /-- The best answer that was found. -/
  finish (best : Option r.Result) (mark : Nat) (s : ParserState) : Step r.Result :=
    match best with
    | some v => .done v { s with mark }
    | none => .miss { s with mark }

/-- Reads a rule that begins with itself. -/
def grown (r : Rule) (p : Parser r.Result) : Parser r.Result := fun o s =>
  let key := answerKey r s.mark o
  match keptAnswer? r key s with
  | some step => step
  | none => grow r (nested p) key s.mark (tokenBound s) none s.mark o s

/-- Reads a rule in the way in which its answers are kept. -/
def enter (r : Rule) (p : Parser r.Result) : Parser r.Result :=
  nested (
    match r.retention with
    | .shared | .separate => remembered r p
    | .growing => grown r p
    | .none => p)

/-- Reads rules of a grammar, nested at most as deeply as the number tells. -/
def read (grammar : Grammar) : Nat → Reader
  | 0, _ => halt .tooDeep
  | depth + 1, r => enter r fun o s => grammar (read grammar depth) r o s

end Playground.Source.Parser
