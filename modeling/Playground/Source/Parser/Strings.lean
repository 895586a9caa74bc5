import Playground.Source.Literal.Escape
import Playground.Source.Parser.Basic

/-!
# Text literals

Adjacent text literals make one value. A literal with the letter `f` holds replacement fields, each
of which is an expression, read by a parser of its own over the text of the field in parentheses,
with an optional conversion and an optional format, which may hold fields in turn.
-/

namespace Playground.Source.Parser

/-- Reads the expression of a replacement field: its text in parentheses, the line before its first
line, and where that line stands. -/
abbrev FieldReader := List Char → Nat → Setting → Except Stop Expr × Array SourceWarning

/-- A text literal taken apart: the letters before it, and where its contents are in its text. -/
structure LiteralParts where
  token : Token
  chars : Array Char
  isBytes : Bool
  isRaw : Bool
  isFormat : Bool
  start : Nat
  stop : Nat

/-- Takes a text literal apart. -/
def LiteralParts.ofToken (t : Token) : LiteralParts :=
  let chars := t.text.toList
  let letters := chars.takeWhile Char.isAlpha |>.map Char.toLower
  let n := letters.length
  let quote := chars.getD n '"'
  let triple := chars.length ≥ n + 6 && chars[n + 1]? = some quote && chars[n + 2]? = some quote
  let size := if triple then 3 else 1
  { token := t, chars := chars.toArray, isBytes := letters.contains 'b'
    isRaw := letters.contains 'r', isFormat := letters.contains 'f'
    start := n + size, stop := chars.length - size }

/-- The contents between two positions of a literal. -/
def LiteralParts.between (l : LiteralParts) (a b : Nat) : List Char :=
  (l.chars.extract a b).toList

/-- Warns of a sequence without a meaning in a literal. -/
def warnMeaningless (t : Token) : Option (List Char) → Parser Unit
  | none => pure ()
  | some after => fun _ s =>
    .done () { s with
      warnings := s.warnings.push
        { message := Escape.warning after, line := t.span.line, isSyntax := false } }

/-- The text that a piece of a literal stands for. -/
def pieceText (l : LiteralParts) (isRaw : Bool) (cs : List Char) : Parser (List Char) :=
  if isRaw || !cs.contains '\\' then pure cs
  else
    match Escape.decodeText 0 (cs.length + 1) cs with
    | .error detail => refuseLast (.undecodable "unicode error" detail)
    | .ok d => do
      warnMeaningless l.token d.meaningless
      return d.value

/-- The bytes that a literal stands for. -/
def bytesOf (l : LiteralParts) : Parser (List UInt8) := do
  let cs := l.between l.start l.stop
  if cs.any fun c => c.toNat ≥ 128 then refuse l.token.span .nonAsciiBytes
  if l.isRaw || !cs.contains '\\' then return cs.map fun c => c.toNat.toUInt8
  match Escape.decodeBytes 0 (cs.length + 1) cs with
  | .error detail => refuseLast (.undecodable "value error" detail)
  | .ok d =>
    warnMeaningless l.token d.meaningless
    return d.value

/-- The parts of a text with fields: those finished, in reverse, and the text read since. -/
structure Joining where
  finished : List Expr := []
  text : Option (List Char) := none

/-- Adds text. -/
def Joining.add (j : Joining) (cs : List Char) : Joining :=
  if cs.isEmpty then j else { j with text := some (j.text.getD [] ++ cs) }

/-- The text read since the last field, as an expression. -/
def Joining.flush (j : Joining) (span : Span) (mark : Bool) : List Expr :=
  match j.text with
  | none => j.finished
  | some cs => .mk span (.literal (.text (String.ofList cs) mark)) :: j.finished

/-- Adds a field. -/
def Joining.addField (j : Joining) (span : Span) (mark : Bool) (e : Expr) : Joining :=
  { finished := e :: j.flush span mark, text := none }

/-- Where the tokens of a run of literals begin and end, and whether the first has the letter `u`. -/
structure Run where
  span : Span
  mark : Bool

/-- How the search for the end of a field's expression stands. -/
structure FieldScan where
  pos : Nat
  quote : Option Char := none
  triple : Bool := false
  open_ : List Char := []

/-- Finds the end of the expression of a field. The fuel bounds its length. -/
def fieldEnd (l : LiteralParts) : Nat → FieldScan → Parser FieldScan
  | 0, f => pure f
  | fuel + 1, f => do
    if f.pos ≥ l.stop then return f
    let ch := l.chars.getD f.pos ' '
    let at_ (i : Nat) : Option Char := if f.pos + i < l.stop then l.chars[f.pos + i]? else none
    let same3 := at_ 1 = some ch && at_ 2 = some ch
    if ch = '\\' then refuseLast .fieldBackslash
    match f.quote with
    | some q =>
      if ch = q then
        if f.triple then
          if same3 then fieldEnd l fuel { f with pos := f.pos + 3, quote := none, triple := false }
          else fieldEnd l fuel { f with pos := f.pos + 1 }
        else fieldEnd l fuel { f with pos := f.pos + 1, quote := none }
      else fieldEnd l fuel { f with pos := f.pos + 1 }
    | none =>
      if ch = '\'' || ch = '"' then
        if same3 then fieldEnd l fuel { f with pos := f.pos + 3, quote := some ch, triple := true }
        else fieldEnd l fuel { f with pos := f.pos + 1, quote := some ch }
      else if ch = '[' || ch = '\x7b' || ch = '(' then
        if f.open_.length ≥ Scanner.maxBrackets then
          refuseLast (.field "too many nested parenthesis")
        else fieldEnd l fuel { f with pos := f.pos + 1, open_ := ch :: f.open_ }
      else if ch = '#' then refuseLast .fieldComment
      else if f.open_.isEmpty && ['!', ':', '\x7d', '=', '<', '>'].contains ch then
        if at_ 1 = some '=' && ['!', '=', '<', '>'].contains ch then
          fieldEnd l fuel { f with pos := f.pos + 2 }
        else if ch = '>' || ch = '<' then fieldEnd l fuel { f with pos := f.pos + 1 }
        else return f
      else if ch = ']' || ch = '\x7d' || ch = ')' then
        match f.open_ with
        | [] => refuseLast (.field (Cause.unmatchedClosing ch).message)
        | o :: rest =>
          if (o = '(' && ch = ')') || (o = '[' && ch = ']') || (o = '\x7b' && ch = '\x7d') then
            fieldEnd l fuel { f with pos := f.pos + 1, open_ := rest }
          else refuseLast (.field (Cause.mismatchedClosing ch o none).message)
      else fieldEnd l fuel { f with pos := f.pos + 1 }

/-- Where a field that opens at position `brace` stands: the lines before it in its literal, and its
column in bytes, which counts from the literal's own column when there are none. -/
def fieldPlace (l : LiteralParts) (brace : Nat) : Nat × Nat :=
  let before := l.between 0 brace
  let lines := before.count '\n'
  let after := l.between (brace + 1) l.chars.size
  let lead := after.dropWhile fun c => c = ' ' || c = '\t' || c = '\x0c'
  let breaks := match lead with
    | c :: _ => c = '\n' || c = '\x7d'
    | [] => true
  let cols := if breaks then 0
    else (before.reverse.takeWhile (· ≠ '\n')).foldr (fun c size => c.utf8Size + size) 0
  (lines, cols)

/-- Reads the expression of a field. -/
def fieldExpr (readField : FieldReader) (l : LiteralParts) (brace stop : Nat) : Parser Expr :=
  fun o s =>
    let cs := l.between (brace + 1) stop
    let next := l.chars.getD stop ' '
    if cs.all fun c => c = ' ' || c = '\t' || c = '\n' || c = '\x0c' then
      if next = '!' || next = ':' || next = '=' then
        refuseLast (.field s!"expression required before '{next}'") o s
      else refuseLast (.field "empty expression not allowed") o s
    else
      let (lines, cols) := fieldPlace l brace
      let t := l.token.span
      let startCol : Int := if lines ≠ 0 then cols else t.col + cols
      let setting : Setting := { isField := true, startLine := t.line + lines, startCol }
      let text := '(' :: cs ++ [')']
      let (result, warnings) := readField text (t.line + lines - 1) setting
      let s := { s with warnings := s.warnings ++ warnings }
      match result with
      | .ok e => .done e s
      | .error why => .stop why s

/-- The literal text at a position: it ends before a field, before the end of a nested format, or
after a doubled brace, which stands for one. Returns the end of the text, the place to go on from,
and whether the text goes on there. -/
def literalEnd (l : LiteralParts) (nested_ : Bool) : Nat → Nat → Parser (Nat × Nat × Bool)
  | 0, pos => pure (pos, pos, false)
  | fuel + 1, pos => do
    if pos ≥ l.stop then return (l.stop, l.stop, false)
    let ch := l.chars.getD pos ' '
    let brace (ch : Char) (pos : Nat) : Parser (Option (Nat × Nat × Bool)) := do
      if ch = '\x7b' || ch = '\x7d' then
        if !nested_ then
          if pos + 1 < l.stop && l.chars[pos + 1]? = some ch then
            return some (pos + 1, pos + 2, true)
          if ch = '\x7d' then refuseLast (.field s!"single '\x7d' is not allowed")
        return some (pos, pos, false)
      else return none
    if !l.isRaw && ch = '\\' && pos + 1 < l.stop then
      let ch := l.chars.getD (pos + 1) ' '
      if ch = 'N' then
        if pos + 2 < l.stop && l.chars[pos + 2]? = some '\x7b' then
          let name := (l.between (pos + 3) l.stop).takeWhile (· ≠ '\x7d')
          literalEnd l nested_ fuel (min l.stop (pos + 3 + name.length + 1))
        else literalEnd l nested_ fuel (min l.stop (pos + 3))
      else
        if ch = '\x7b' then warnMeaningless l.token (some ['\x7b'])
        match ← brace ch (pos + 1) with
        | some r => return r
        | none => literalEnd l nested_ fuel (pos + 2)
    else
      match ← brace ch pos with
      | some r => return r
      | none => literalEnd l nested_ fuel (pos + 1)

mutual

/-- Reads text and fields from a position to the end of the literal, or of a nested format. The
fuel bounds the number of pieces. -/
def joinParts (readField : FieldReader) (l : LiteralParts) (run : Run) (level : Nat) :
    Nat → Nat → Joining → Parser (Nat × Joining)
  | 0, pos, j => pure (pos, j)
  | fuel + 1, pos, j => do
    let (stop, next, more) ← literalEnd l (level > 0) (l.chars.size + 1) pos
    let cs ← pieceText l l.isRaw (l.between pos stop)
    let j := j.add cs
    if more then joinParts readField l run level fuel next j
    else if next ≥ l.stop || l.chars[next]? = some '\x7d' then
      if level = 0 then
        if next < l.stop then refuseLast (.field "unexpected end of string")
      else if l.chars[next]? ≠ some '\x7d' || next ≥ l.stop then
        refuseLast (.field "expecting '\x7d'")
      return (next, j)
    else
      let (next, shown, e) ← replacement readField l run level fuel next
      let j := j.add shown
      joinParts readField l run level fuel next (j.addField run.span run.mark e)

/-- Reads a field that opens at a position. Returns the place after it, the text that a trailing `=`
asks to show, and its expression. -/
def replacement (readField : FieldReader) (l : LiteralParts) (run : Run) (level : Nat) :
    Nat → Nat → Parser (Nat × List Char × Expr)
  | 0, pos => pure (pos, [], default)
  | fuel + 1, brace => do
    if level ≥ 2 then refuseLast (.field "expressions nested too deeply")
    let scan ← fieldEnd l (l.chars.size + 1) { pos := brace + 1 }
    if scan.quote.isSome then refuseLast (.field "unterminated string")
    if let o :: _ := scan.open_ then refuseLast (.field (Cause.unmatchedClosing o).message)
    let unfinished : Parser Unit := refuseLast (.field "expecting '\x7d'")
    if scan.pos ≥ l.stop then unfinished
    let value ← fieldExpr readField l brace scan.pos
    let mut pos := scan.pos
    let mut shown : List Char := []
    let shows := l.chars[pos]? = some '='
    if shows then
      let blanks := (l.between (pos + 1) l.stop).takeWhile fun c =>
        c = ' ' || (9 ≤ c.toNat && c.toNat ≤ 13)
      pos := pos + 1 + blanks.length
      if pos ≥ l.stop then unfinished
      shown := l.between (brace + 1) pos
    let mut conversion := Conversion.none
    if l.chars[pos]? = some '!' then
      if pos + 1 ≥ l.stop then unfinished
      match l.chars[pos + 1]? with
      | some 's' => conversion := .str
      | some 'r' => conversion := .repr
      | some 'a' => conversion := .ascii
      | _ =>
        refuseLast (.field "invalid conversion character: expected 's', 'r', or 'a'")
      pos := pos + 2
      if pos ≥ l.stop then unfinished
    let mut format : Option Expr := none
    if l.chars[pos]? = some ':' then
      if pos + 1 ≥ l.stop then unfinished
      let (next, j) ← joinParts readField l run (level + 1) fuel (pos + 1) {}
      let own := l.token.span
      format := some (.mk own (.joined (j.flush own run.mark).reverse))
      pos := next
    if pos ≥ l.stop || l.chars[pos]? ≠ some '\x7d' then unfinished
    if shows && format.isNone && conversion = .none then conversion := .repr
    return (pos + 1, shown, .mk run.span (.formatted value conversion format))

end

/-- The value of a run of adjacent literals. -/
def joinLiterals (readField : FieldReader) (ts : List Token) : Parser Expr := do
  let parts := ts.map LiteralParts.ofToken
  let first := ts.headD default
  let last := ts.getLastD first
  let run : Run := { span := first.span.to last.span, mark := first.text.toList.head? = some 'u' }
  let mut isBytes := false
  let mut bytes : List UInt8 := []
  let mut joining : Joining := {}
  let mut isFormat := false
  for (l, i) in parts.zipIdx do
    if l.isBytes then
      let more ← bytesOf l
      if i ≠ 0 && !isBytes then refuseLast .mixedBytes
      isBytes := true
      bytes := bytes ++ more
    else if l.isFormat then
      if i ≠ 0 && isBytes then refuseLast .mixedBytes
      let (_, j) ← joinParts readField l run 0 (2 * l.chars.size + 8) l.start joining
      joining := j
      isFormat := true
    else
      let more ← pieceText l l.isRaw (l.between l.start l.stop)
      if i ≠ 0 && isBytes then refuseLast .mixedBytes
      joining := joining.add more
  if isBytes then return .mk run.span (.literal (.bytes bytes))
  if isFormat then return .mk run.span (.joined (joining.flush run.span run.mark).reverse)
  return .mk run.span (.literal (.text (String.ofList (joining.text.getD [])) run.mark))

end Playground.Source.Parser
