import Playground.Source.Grammar.Rules

/-!
# Parsing

A module is parsed in up to two passes. The first reads the grammar alone; if it fails without a
fault, the second looks for frequent mistakes as well, and if that finds none, the fault is at the
last token that the first pass saw. A fault of the grammar gives way to a fault in the rest of the
text, such as a bracket that is never closed.
-/

namespace Playground.Source

open Playground.Source.Parser

/-- What parsing yields: a result or the reason for which there is none, and warnings. -/
abbrev Parsed (α : Type) := Except Stop α × Array SourceWarning

/-- Scans the rest of the text for a fault that comes before `fault`. The fuel bounds the number of
tokens. -/
def scanRest (fault : SyntaxFault) (lastLine : Nat) : Nat → ParserState → Parsed Unit
  | 0, s => (.error (.fault fault), s.warnings)
  | fuel + 1, s =>
    let (t, scanner) := s.scanner.nextToken
    let s := { s with
      scanner := { scanner with warnings := [] }
      warnings := s.warnings ++ scanner.warnings.toArray }
    match t.kind with
    | .endMarker => (.error (.fault fault), s.warnings)
    | .invalid =>
      let fault :=
        match scanner.fault, scanner.brackets with
        | some f, _ => f
        | none, b :: _ => if lastLine > b.line then faultUnclosed s b else fault
        | none, [] => fault
      (.error (.fault fault), s.warnings)
    | _ => scanRest fault lastLine fuel s

/-- Reports a fault, or one in the rest of the text. -/
def report {α : Type} (fault : SyntaxFault) (s : ParserState) : Parsed α :=
  let lastLine := (s.tokens.back?.map fun t => t.span.line).getD 0
  let (result, warnings) := scanRest fault lastLine (tokenBound s) s
  (result.bind fun _ => .error (.fault fault), warnings)

/-- Reports a fault of the grammar: the rest of the text is looked at only if scanning did not fail
and did not reach the end. -/
def reportMistake {α : Type} (fault : SyntaxFault) (s : ParserState) : Parsed α :=
  if s.scanner.status = .reading then report fault s else (.error (.fault fault), s.warnings)

/-- The fault of a text in which no mistake was recognised: it is at the last token of the first
pass. -/
def unrecognised {α : Type} (last : Option Token) (s : ParserState) : Parsed α :=
  match last with
  | none => (.error (.fault (faultAtLast s .syntaxError .invalidSyntax)), s.warnings)
  | some t =>
    match t.kind with
    | .indent =>
      (.error (.fault (faultAtLast s .indentationError .unexpectedIndent)), s.warnings)
    | .dedent =>
      (.error (.fault (faultAtLast s .indentationError .unexpectedUnindent)), s.warnings)
    | _ => report (faultAtSpan s t.span .invalidSyntax) s

/-- Parses a text whose lines are numbered from `line + 1`. The fuel bounds how deeply texts with
replacement fields are nested in each other. -/
def parseFrom (start : Rule) (setting : Setting) (text : List Char) (line : Nat) :
    Nat → Parsed start.Result
  | 0 => (.error .tooDeep, #[])
  | fuel + 1 =>
    let readField : FieldReader := fun text line setting => parseFrom .field setting text line fuel
    let reader := read (Grammar.rules readField) (maxDepth + 1) start
    let initial : ParserState := { setting, scanner := Scanner.ofText text line }
    let again (s : ParserState) : Parsed start.Result :=
      let last := s.tokens.back?
      match reader ⟨0, true⟩ { s with mark := 0, answers := ∅ } with
      | .stop (.fault f) s => reportMistake f s
      | .stop .tooDeep s => (.error .tooDeep, s.warnings)
      | .done _ s | .miss s | .decline s => unrecognised last s
    match reader ⟨0, false⟩ initial with
    | .done v s => (.ok v, s.warnings)
    | .stop (.fault f) s => reportMistake f s
    | .stop .tooDeep s => (.error .tooDeep, s.warnings)
    | .miss s | .decline s => again s

/-- Parses a module. -/
def parseModule (source : String) : Parsed Module :=
  parseFrom .file {} source.toList 0 (source.length + 1)

end Playground.Source
