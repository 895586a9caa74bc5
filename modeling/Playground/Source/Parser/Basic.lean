import Playground.Source.Scanner
import Playground.Source.Parser.Rule
import Std.Data.HashMap

/-!
# Parsing steps

The vocabulary in which the grammar is written. A parser step reads tokens from the current place
and either yields a value, or misses and lets the next alternative try, or declines on behalf of the
whole rule, or stops with a fault. Alternatives are tried in order and the first that fits wins;
what was read for a rule at a place is kept, so that no rule reads the same place twice.

Tokens are scanned only when a step asks for them. A fault in the text is therefore met in the order
in which the grammar reads.
-/

namespace Playground.Source

/-- What a rule answered at a place: its value and the place after it, or a miss. -/
structure Answer where
  rule : Rule
  value : Option rule.Result
  mark : Nat

/-- The text under the parser: a module, or a replacement field of a text literal, whose first line
and column are those of the field in the module. -/
structure Setting where
  isField : Bool := false
  startLine : Nat := 0
  startCol : Int := 0
  deriving Inhabited

/-- The state of the parser. -/
structure ParserState where
  setting : Setting
  scanner : Scanner
  tokens : Array Token := #[]
  /-- The index of the next token. -/
  mark : Nat := 0
  answers : Std.HashMap Nat Answer := ∅
  warnings : Array SourceWarning := #[]

/-- The outcome of a parser step. -/
inductive Step (α : Type) where
  | done (value : α) (s : ParserState)
  | miss (s : ParserState)
  /-- The alternative fitted and nevertheless the rule has no answer. -/
  | decline (s : ParserState)
  | stop (why : Stop) (s : ParserState)

/-- How a step is to look at the text: the number of rules it is nested in, and whether frequent
mistakes are looked for. -/
structure Outlook where
  depth : Nat
  mistakes : Bool

/-- A parser step. -/
def Parser (α : Type) := Outlook → ParserState → Step α

namespace Parser

@[always_inline]
instance : Monad Parser where
  pure a := fun _ s => .done a s
  bind p f := fun o s =>
    match p o s with
    | .done a s => f a o s
    | .miss s => .miss s
    | .decline s => .decline s
    | .stop w s => .stop w s

/-- Reads a rule. -/
abbrev Reader := (r : Rule) → Parser r.Result

/-- The step that reads nothing and fits nowhere. -/
@[inline] def miss {α : Type} : Parser α := fun _ s => .miss s

/-- Ends the rule without an answer. -/
@[inline] def decline {α : Type} : Parser α := fun _ s => .decline s

/-- Stops parsing. -/
@[inline] def halt {α : Type} (why : Stop) : Parser α := fun _ s => .stop why s

/-- Goes on only if the condition holds. -/
@[inline] def require (b : Bool) : Parser Unit := fun _ s => if b then .done () s else .miss s

/-! ## Faults -/

/-- The characters of the line on which a fault is shown. -/
def shownLine (s : ParserState) (line : Nat) : Array Char :=
  let sc := s.scanner
  if sc.line ≤ line && sc.lineEnd > sc.bufferStart then sc.chars.extract sc.bufferStart sc.lineEnd
  else
    let wanted := if s.setting.startLine = 0 then line else line - s.setting.startLine + 1
    let start := (List.range (wanted - 1)).foldl (fun i _ => Scanner.afterLine sc.chars i) 0
    let start := if start < sc.chars.size then start else 0
    let stop := Scanner.afterLine sc.chars start
    let stop := if sc.chars[stop - 1]? = some '\n' then stop - 1 else stop
    sc.chars.extract start stop

/-- The number of characters in the first `bytes` bytes of a line; one that is cut counts, and so
does the end of the line. -/
def charsWithin (line : Array Char) (bytes : Int) : Int :=
  let (count, used) := line.foldl (fun (acc : Nat × Int) c =>
    if acc.2 < bytes then (acc.1 + 1, acc.2 + c.utf8Size) else acc) (0, 0)
  if used < bytes then count + 1 else count

/-- A fault between two places, given as columns in bytes from one. -/
def faultAt (s : ParserState) (kind : FaultKind) (cause : Cause) (line : Nat) (col : Int)
    (endLine : Nat) (endCol : Int) : SyntaxFault :=
  let message := if s.setting.isField then (Cause.field cause.message).message else cause.message
  if s.setting.isField then
    { kind, message := some message, line := some line, offset := some (col - s.setting.startCol)
      endLine := some endLine, endOffset := some (endCol - s.setting.startCol) }
  else
    let shown := shownLine s line
    { kind, message := some message, line := some line, offset := some (charsWithin shown col)
      endLine := some endLine
      endOffset := some (if endCol > 0 then charsWithin shown endCol else endCol) }

/-- The fault for the last token that was scanned; where that token has no text, it stands where
reading stopped. -/
def faultAtLast (s : ParserState) (kind : FaultKind) (cause : Cause) : SyntaxFault :=
  match s.tokens.back? with
  | none => faultAt s kind cause 0 0 0 (-1)
  | some t =>
    let sc := s.scanner
    let col :=
      if t.span.col ≠ -1 then t.span.col + 1
      else if sc.cur = sc.bufferStart then 0
      else (sc.bytesBetween sc.lineStart sc.cur : Int)
    let endCol := if t.span.endCol ≠ -1 then t.span.endCol + 1 else -1
    faultAt s kind cause t.span.line col t.span.endLine endCol

/-- The fault for a span. -/
def faultAtSpan (s : ParserState) (span : Span) (cause : Cause) : SyntaxFault :=
  faultAt s .syntaxError cause span.line (span.col + 1) span.endLine (span.endCol + 1)

/-- The fault for a bracket that was not closed. -/
def faultUnclosed (s : ParserState) (b : OpenBracket) : SyntaxFault :=
  faultAt s .syntaxError (.neverClosed b.char) b.line (b.col + 1) b.line 0

/-- The fault for which the scanner stopped. -/
def scannerFault (s : ParserState) : SyntaxFault :=
  let atStart (kind : FaultKind) (cause : Cause) (col : Int) : SyntaxFault :=
    faultAt s kind cause s.scanner.line (col + 1) s.scanner.line 0
  match s.scanner.fault with
  | some f => f
  | none =>
    match s.scanner.status with
    | .inconsistentDedent => faultAtLast s .indentationError .inconsistentDedent
    | .inconsistentTabs => atStart .tabError .inconsistentTabs 0
    | .tooManyIndents => atStart .indentationError .tooManyIndents 0
    | .brokenContinuation =>
      let col : Int := s.scanner.bytesBetween s.scanner.bufferStart s.scanner.cur
      atStart .syntaxError .afterContinuation (if col - 1 ≥ 0 then col - 1 else 0)
    | _ =>
      match s.scanner.brackets with
      | b :: _ => faultUnclosed s b
      | [] => faultAtLast s .syntaxError .unexpectedEnd

/-- Stops with a fault at the last token that was scanned. -/
def refuseLast {α : Type} (cause : Cause) : Parser α := fun _ s =>
  .stop (.fault (faultAtLast s .syntaxError cause)) s

/-- Stops with a fault of indentation at the last token that was scanned. -/
def refuseIndent {α : Type} (cause : Cause) : Parser α := fun _ s =>
  .stop (.fault (faultAtLast s .indentationError cause)) s

/-- Stops with a fault at a span. -/
def refuse {α : Type} (span : Span) (cause : Cause) : Parser α := fun _ s =>
  .stop (.fault (faultAtSpan s span cause)) s

/-- Stops with a fault from the start of a span to where reading stands. -/
def refuseFrom {α : Type} (span : Span) (cause : Cause) : Parser α := fun _ s =>
  let sc := s.scanner
  .stop (.fault (faultAt s .syntaxError cause span.line (span.col + 1) sc.line
    (sc.bytesBetween sc.lineStart sc.cur))) s

/-! ## Tokens -/

/-- Scans one more token. -/
def scanToken (s : ParserState) : ParserState :=
  let (t, scanner) := s.scanner.nextToken
  let shift (col : Int) : Int :=
    if scanner.line = s.setting.startLine then s.setting.startCol + col else col
  let t := { t with span := { t.span with col := shift t.span.col, endCol := shift t.span.endCol } }
  { s with
    tokens := s.tokens.push t
    scanner := { scanner with warnings := [] }
    warnings := s.warnings ++ scanner.warnings.toArray }

/-- The next token, without reading it. -/
def peek : Parser Token := fun _ s =>
  match s.tokens[s.mark]? with
  | some t => .done t s
  | none =>
    let s := scanToken s
    match s.tokens[s.mark]? with
    | some t =>
      if t.kind = .invalid then .stop (.fault (scannerFault s)) s
      else .done t s
    | none => .miss s

/-- Reads the next token if it satisfies `p`. -/
@[inline] def token (p : Token → Bool) : Parser Token := fun o s =>
  match peek o s with
  | .done t s => if p t then .done t { s with mark := s.mark + 1 } else .miss s
  | other => other

/-- Reads an operator or delimiter. -/
def op (text : String) : Parser Token := token fun t => t.kind = .op && t.text = text

/-- Reads a keyword. -/
def kw (text : String) : Parser Token := token fun t => t.kind = .keyword && t.text = text

/-- Reads a name that is reserved here only. -/
def soft (text : String) : Parser Token := token fun t => t.kind = .name && t.text = text

/-- Reads any name that is reserved somewhere only. -/
def anySoft : Parser Token := token fun t => t.kind = .name && softKeywords.contains t.text

/-- Reads a token of a kind. -/
def kind (k : TokenKind) : Parser Token := token fun t => t.kind = k

/-- Reads a name. -/
def name : Parser Ident := do
  let t ← kind .name
  return ⟨t.text, t.span⟩

/-- Reads an operator or stops with a fault. -/
def must (text : String) : Parser Token := fun o s =>
  match peek o s with
  | .done t s =>
    if t.kind = .op && t.text = text then .done t { s with mark := s.mark + 1 }
    else .stop (.fault (faultAtSpan s t.span (.expected text))) s
  | other => other

/-! ## Combinators -/

/-- The deepest nesting of rules. -/
def maxDepth : Nat := 6000

/-- Enters one more level of nesting. -/
@[inline] def nested {α : Type} (p : Parser α) : Parser α := fun o s =>
  if o.depth ≥ maxDepth then .stop .tooDeep s
  else p { o with depth := o.depth + 1 } s

/-- The first of the alternatives that fits, each tried from the same place. -/
def firstOf {α : Type} : List (Parser α) → Parser α
  | [], _, s => .miss s
  | p :: rest, o, s =>
    let mark := s.mark
    match p o s with
    | .done a s => .done a s
    | .miss s => firstOf rest o { s with mark }
    | .decline s => .miss { s with mark }
    | .stop w s => .stop w s

/-- A choice inside a rule. -/
@[inline] def choice {α : Type} (ps : List (Parser α)) : Parser α := nested (firstOf ps)

/-- Once the start of an alternative fits, no other alternative of the rule is tried. -/
@[inline] def committed {α : Type} (p : Parser α) : Parser α := fun o s =>
  match p o s with
  | .miss s => .decline s
  | other => other

/-- An alternative that is tried only when mistakes are looked for. -/
@[inline] def mistake {α β : Type} (p : Parser β) : Parser α := fun o s =>
  if o.mistakes then
    match p o s with
    | .done _ s => .decline s
    | .miss s => .miss s
    | .decline s => .miss s
    | .stop w s => .stop w s
  else .miss s

/-- Reads `p` without looking for mistakes. -/
@[inline] def trusting {α : Type} (p : Parser α) : Parser α := fun o s =>
  p { o with mistakes := false } s

/-- Reads `p` if it fits. -/
@[inline] def maybe {α : Type} (p : Parser α) : Parser (Option α) := fun o s =>
  let mark := s.mark
  match p o s with
  | .done a s => .done (some a) s
  | .miss s => .done none { s with mark }
  | .decline s => .done none { s with mark }
  | .stop w s => .stop w s

/-- Fits where `p` does, and reads nothing. -/
@[inline] def ahead {α : Type} (p : Parser α) : Parser Unit := fun o s =>
  let mark := s.mark
  match p o s with
  | .done _ s => .done () { s with mark }
  | .miss s => .miss { s with mark }
  | .decline s => .miss { s with mark }
  | .stop w s => .stop w s

/-- Fits where `p` does not, and reads nothing. -/
@[inline] def notAhead {α : Type} (p : Parser α) : Parser Unit := fun o s =>
  let mark := s.mark
  match p o s with
  | .done _ s => .miss { s with mark }
  | .miss s => .done () { s with mark }
  | .decline s => .done () { s with mark }
  | .stop w s => .stop w s

/-- `p` as often as it fits, the values being added to `acc` in reverse. A repetition that reads
nothing ends the loop; the fuel bounds the number of repetitions. -/
def repeated {α : Type} (p : Parser α) : Nat → List α → Parser (List α)
  | 0, acc => pure acc.reverse
  | fuel + 1, acc => fun o s =>
    let mark := s.mark
    match p o s with
    | .done a s =>
      if s.mark = mark then .done (a :: acc).reverse s else repeated p fuel (a :: acc) o s
    | .miss s => .done acc.reverse { s with mark }
    | .decline s => .done acc.reverse { s with mark }
    | .stop w s => .stop w s

/-- A bound on the number of tokens still to be read. -/
def tokenBound (s : ParserState) : Nat :=
  2 * s.scanner.chars.size + s.tokens.size + 8

/-- `p`, any number of times. -/
@[inline] def many {α : Type} (p : Parser α) : Parser (List α) :=
  nested fun o s => repeated p (tokenBound s) [] o s

/-- `p`, at least once. -/
@[inline] def many1 {α : Type} (p : Parser α) : Parser (List α) := do
  let all ← many p
  require !all.isEmpty
  return all

/-- `p`, at least once, with commas between. -/
@[inline] def commaSep {α : Type} (p : Parser α) : Parser (List α) :=
  nested do
    let first ← p
    let rest ← many do
      let _ ← op ","
      p
    return first :: rest

/-- The last of the first `n` tokens that is not part of the layout. -/
def lastWord? (tokens : Array Token) : Nat → Option Token
  | 0 => none
  | n + 1 =>
    match tokens[n]? with
    | some t => if t.kind.isLayout then lastWord? tokens n else some t
    | none => lastWord? tokens n

/-- Reads `p` and tells the span from its first token to its last one. -/
@[inline] def spanned {α β : Type} (p : Parser α) (f : Span → α → β) : Parser β := fun o s =>
  match peek o s with
  | .done start s =>
    match p o s with
    | .done a s =>
      let last := (lastWord? s.tokens s.mark).getD start
      .done (f (start.span.to last.span) a) s
    | .miss s => .miss s
    | .decline s => .decline s
    | .stop w s => .stop w s
  | .miss s => .miss s
  | .decline s => .decline s
  | .stop w s => .stop w s

end Parser

end Playground.Source
