import Playground.Source.Fault
import Playground.Source.Token
import Playground.Text.Identifier
import Playground.Text.Printable

/-!
# The scanner

Splits a source text into tokens, one at a time, so that a fault in the text after a grammar error
is not seen before that error. Indentation becomes tokens of its own; inside brackets and on lines
that hold nothing but blanks and a comment it has no meaning.

The scanner reads line by line and remembers where it stands, because a fault that concerns no token
is reported at the place where reading stopped.
-/

namespace Playground.Source

/-- How the last reading step ended. -/
inductive ScanStatus where
  | reading
  | atEnd
  /-- A fault with a wording of its own was found. -/
  | faulty
  | brokenContinuation
  | inconsistentDedent
  | inconsistentTabs
  | tooManyIndents
  /-- A text that the end of its line or of the source cut short. -/
  | cutShort
  deriving DecidableEq, Repr, Inhabited

/-- An open bracket and where it stands. -/
structure OpenBracket where
  char : Char
  line : Nat
  col : Nat
  deriving Repr, Inhabited

/-- The state of the scanner. Positions are indices into `chars`. -/
structure Scanner where
  /-- The text, with line feeds alone between lines. -/
  chars : Array Char
  /-- The UTF-8 offset of each position. -/
  offsets : Array Nat
  /-- The next character to read. -/
  cur : Nat := 0
  /-- The end of the line being read. -/
  lineEnd : Nat := 0
  /-- The start of the line being read. -/
  lineStart : Nat := 0
  /-- The start of the line on which the token being read began. -/
  bufferStart : Nat := 0
  /-- The number of the line being read. -/
  line : Nat := 0
  status : ScanStatus := .reading
  fault : Option SyntaxFault := none
  atLineStart : Bool := true
  /-- Indents (positive) or dedents (negative) still to be delivered. -/
  pending : Int := 0
  /-- Widths of the open blocks, innermost first, with tabs counted as up to eight columns and as
  one column. -/
  indents : List (Nat × Nat) := [(0, 0)]
  brackets : List OpenBracket := []
  tokenStart : Option Nat := none
  stringLine : Nat := 0
  stringLineStart : Nat := 0
  warnings : List SourceWarning := []
  deriving Inhabited

/-- Line endings of every kind as line feeds, with one at the end; a text that ends with a carriage
return and a line feed gets one more. -/
def normalizeLines : List Char → List Char
  | [] => ['\n']
  | ['\r', '\n'] => ['\n', '\n']
  | '\r' :: '\n' :: rest => '\n' :: normalizeLines rest
  | ['\r'] => ['\n']
  | ['\n'] => ['\n']
  | '\r' :: rest => '\n' :: normalizeLines rest
  | c :: rest => c :: normalizeLines rest

namespace Scanner

/-- The deepest nesting of brackets. -/
def maxBrackets : Nat := 200

/-- The deepest nesting of blocks, counting the module itself. -/
def maxIndents : Nat := 100

/-- The UTF-8 offset of each position of a text, and of its end. -/
def utf8Offsets (chars : Array Char) : Array Nat :=
  (chars.foldl (fun (acc : Array Nat × Nat) c =>
    let next := acc.2 + c.utf8Size
    (acc.1.push next, next)) (#[0], 0)).1

/-- A scanner at the start of a text whose lines are numbered from `line + 1`. -/
def ofText (text : List Char) (line : Nat) : Scanner :=
  let chars := (normalizeLines text).toArray
  { chars, offsets := utf8Offsets chars, line }

/-- The number of UTF-8 bytes between two positions. -/
def bytesBetween (s : Scanner) (a b : Nat) : Nat :=
  s.offsets.getD b 0 - s.offsets.getD a 0

/-- The position after the line feed at or after `i`. -/
def afterLine (chars : Array Char) (i : Nat) : Nat :=
  if h : i < chars.size then
    if chars[i] = '\n' then i + 1 else afterLine chars (i + 1)
  else chars.size
termination_by chars.size - i

end Scanner

/-- Scanning steps: they change the scanner, and may stop without a token. -/
abbrev Scan := ExceptT Unit (StateM Scanner)

namespace Scan

/-- Reads one character, going on to the next line where one ends. -/
def next : Scan (Option Char) := do
  let s ← get
  if s.cur < s.lineEnd then
    set { s with cur := s.cur + 1 }
    return s.chars[s.cur]?
  else if s.status ≠ .reading then
    return none
  else if s.lineEnd < s.chars.size then
    set { s with
      bufferStart := if s.tokenStart.isNone then s.cur else s.bufferStart
      lineStart := s.cur
      line := s.line + 1
      lineEnd := Scanner.afterLine s.chars s.lineEnd
      cur := s.cur + 1 }
    return s.chars[s.cur]?
  else
    set { s with status := .atEnd, cur := s.lineEnd }
    return none

/-- Gives back the character that was read last. -/
def unread (c : Option Char) : Scan Unit :=
  if c.isSome then modify fun s => { s with cur := s.cur - 1 } else pure ()

/-- Stops without a token. -/
def stop (status : ScanStatus) : Scan Unit := do
  modify fun s => { s with status }
  throw ()

/-- Stops at the end of the current line. -/
def stopAtLineEnd (status : ScanStatus) : Scan Unit := do
  modify fun s => { s with status, cur := s.lineEnd }
  throw ()

/-- Records a fault at the character that was read last. -/
def record (cause : Cause) : Scan Unit :=
  modify fun s => { s with
    status := .faulty
    fault := some
      { kind := .syntaxError, message := some cause.message, line := some s.line
        offset := some ((s.cur : Int) - s.lineStart), endLine := some s.line
        endOffset := some (-1) } }

/-- Stops with a fault at the character that was read last. -/
def refuse {α : Type} (cause : Cause) : Scan α := do
  record cause
  throw ()

/-- Adds a warning about syntax on the current line. -/
def warn (cause : Cause) : Scan Unit :=
  modify fun s => { s with
    warnings := s.warnings ++ [{ message := cause.message, line := s.line, isSyntax := true }] }

/-- Skips characters while they satisfy `p`, and returns the first that does not. The fuel bounds
the number of characters. -/
def skipWhile (p : Char → Bool) : Nat → Scan (Option Char)
  | 0 => next
  | fuel + 1 => do
    let c ← next
    match c with
    | some ch => if p ch then skipWhile p fuel else return c
    | none => return none

/-- A bound on the number of characters still to be read. -/
def fuel : Scan Nat := do
  return (← get).chars.size + 1

/-- Whether the text goes on with `word`, from the next character. -/
def looksAt (word : String) : Scan Bool := do
  let s ← get
  return (word.toList.zipIdx).all fun (c, i) => s.chars[s.cur + i]? = some c

/-- The characters of names, before the stricter test of those outside ASCII. -/
def mayBeInName (c : Char) : Bool :=
  c.isAlphanum || c == '_' || c.toNat ≥ 128

/-- The characters that may begin a name, before the stricter test of those outside ASCII. -/
def mayBeginName (c : Char) : Bool :=
  c.isAlpha || c == '_' || c.toNat ≥ 128

/-- After a backslash: the line must end here and another one must follow. -/
def continueLine : Scan Unit := do
  let c ← next
  if c ≠ some '\n' then
    stop .brokenContinuation
  let c ← next
  if c.isNone then
    modify fun s => { s with status := .atEnd, cur := s.lineEnd }
    throw ()
  unread c

/-! ## Numbers -/

/-- What may follow a number: not a name, save for a keyword, which brings a warning. -/
def checkNumberEnd (c : Option Char) (radix : Radix) : Scan Unit := do
  match c with
  | none => pure ()
  | some ch =>
    let keyword ←
      match ch with
      | 'a' => looksAt "nd"
      | 'e' => looksAt "lse"
      | 'f' => looksAt "or"
      | 'i' =>
        let s ← get
        pure ((s.chars[s.cur]?.map fun c => c = 'f' || c = 'n' || c = 's').getD false)
      | 'o' => looksAt "r"
      | 'n' => looksAt "ot"
      | _ => pure false
    if keyword then
      unread c
      warn (.invalidNumber radix)
      discard next
    else if mayBeInName ch then
      unread c
      refuse (.invalidNumber radix)

/-- Decimal digits with single underscores between them; returns the character after them. -/
def decimalTail : Nat → Scan (Option Char)
  | 0 => next
  | fuel + 1 => do
    let c ← skipWhile Char.isDigit (← Scan.fuel)
    if c ≠ some '_' then return c
    let c ← next
    if (c.map Char.isDigit).getD false then decimalTail fuel
    else
      unread c
      refuse (.invalidNumber .decimal)

/-- The digit of a number in base sixteen. -/
def isHexDigit (c : Char) : Bool :=
  c.isDigit || ('a' ≤ c && c ≤ 'f') || ('A' ≤ c && c ≤ 'F')

/-- The digits of a notation whose base is a power of two, with an underscore allowed before each
group; returns the character after them. -/
def radixDigits (radix : Radix) (isDigitOf : Char → Bool) : Nat → Scan (Option Char)
  | 0 => next
  | fuel + 1 => do
    let c ← next
    let c ← if c = some '_' then next else pure c
    match c with
    | some ch =>
      if !isDigitOf ch then
        if ch.isDigit && radix ≠ .hexadecimal then refuse (.invalidDigit ch radix)
        unread c
        refuse (.invalidNumber radix)
    | none => refuse (.invalidNumber radix)
    let c ← skipWhile isDigitOf (← Scan.fuel)
    if c = some '_' then
      unread c
      radixDigits radix isDigitOf fuel
    else return c

/-- A number whose prefix was read. -/
def radixNumber (radix : Radix) (isDigitOf : Char → Bool) : Scan (Option Char) := do
  let c ← radixDigits radix isDigitOf (← fuel)
  match c with
  | some ch =>
    if ch.isDigit && radix ≠ .hexadecimal then refuse (.invalidDigit ch radix)
  | none => pure ()
  checkNumberEnd c radix
  return c

/-- The end of a decimal number, from the mark of an imaginary number on. -/
def imaginaryPart (c : Option Char) : Scan (Option Char) := do
  if c = some 'j' || c = some 'J' then
    let c ← next
    checkNumberEnd c .imaginary
    return c
  else
    checkNumberEnd c .decimal
    return c

/-- The exponent of a decimal number and what follows it. -/
def exponentPart (c : Option Char) : Scan (Option Char) := do
  if c = some 'e' || c = some 'E' then
    let mark := c
    let c ← next
    if c = some '+' || c = some '-' then
      let c ← next
      if (c.map Char.isDigit).getD false then
        imaginaryPart (← decimalTail (← fuel))
      else
        unread c
        refuse (.invalidNumber .decimal)
    else if (c.map Char.isDigit).getD false then
      imaginaryPart (← decimalTail (← fuel))
    else
      unread c
      checkNumberEnd mark .decimal
      return mark
  else imaginaryPart c

/-- The digits after the point of a decimal number, `c` being the first of them, and the rest. -/
def fractionPart (c : Option Char) : Scan (Option Char) := do
  if (c.map Char.isDigit).getD false then exponentPart (← decimalTail (← fuel))
  else exponentPart c

/-- Zeros with single underscores between them, `c` being the next character. -/
def zeros (c : Option Char) : Nat → Scan (Option Char)
  | 0 => pure c
  | fuel + 1 => do
    if c = some '_' then
      let c ← next
      if (c.map Char.isDigit).getD false then
        if c = some '0' then zeros (← next) fuel else return c
      else
        unread c
        refuse (.invalidNumber .decimal)
    else if c = some '0' then zeros (← next) fuel
    else return c

/-- A number that starts with a zero. -/
def zeroNumber (start : Nat) : Scan (Option Char) := do
  let c ← next
  match c with
  | some 'x' | some 'X' => radixNumber .hexadecimal isHexDigit
  | some 'o' | some 'O' => radixNumber .octal fun c => '0' ≤ c && c ≤ '7'
  | some 'b' | some 'B' => radixNumber .binary fun c => c == '0' || c == '1'
  | _ =>
    let c ← zeros c (← fuel)
    let zerosEnd := (← get).cur
    let nonzero := (c.map Char.isDigit).getD false
    let c ← if nonzero then decimalTail (← fuel) else pure c
    match c with
    | some '.' => fractionPart (← next)
    | some 'e' | some 'E' | some 'j' | some 'J' => exponentPart c
    | _ =>
      if nonzero then
        unread c
        modify fun s => { s with
          status := .faulty
          fault := some
            { kind := .syntaxError, message := some Cause.leadingZeros.message
              line := some s.line, offset := some (s.bytesBetween s.lineStart start + 1)
              endLine := some s.line, endOffset := some (s.bytesBetween s.lineStart zerosEnd) } }
        throw ()
      checkNumberEnd c .decimal
      return c

/-- A number whose first digit was read. -/
def number (first : Char) (start : Nat) : Scan Unit := do
  let c ←
    if first = '0' then zeroNumber start
    else do
      let c ← decimalTail (← fuel)
      if c = some '.' then fractionPart (← next) else exponentPart c
  unread c

/-! ## Texts -/

/-- Ends a text that was cut short, at its first character. -/
def cutShort (triple : Bool) (c : Option Char) (start : Nat) : Scan Unit := do
  let detected := (← get).line
  modify fun s => { s with cur := start + 1, lineStart := s.stringLineStart, line := s.stringLine }
  record (if triple then .unterminatedTripleString detected else .unterminatedString detected)
  if c ≠ some '\n' then modify fun s => { s with status := .cutShort }
  throw ()

/-- The rest of a text, up to its closing quotes; `closed` counts those already seen. -/
def stringBody (quote : Char) (size : Nat) (start closed : Nat) : Nat → Scan Unit
  | 0 => pure ()
  | fuel + 1 => do
    if closed = size then return ()
    let c ← next
    if c.isNone || (size = 1 && c = some '\n') then
      cutShort (size = 3) c start
    else if c = some quote then stringBody quote size start (closed + 1) fuel
    else
      if c = some '\\' then discard next
      stringBody quote size start 0 fuel

/-- A text whose first quote was read. -/
def string (quote : Char) (start : Nat) : Scan Unit := do
  modify fun s => { s with stringLine := s.line, stringLineStart := s.lineStart }
  let c ← next
  if c = some quote then
    let c ← next
    if c = some quote then stringBody quote 3 start 0 (← fuel)
    else unread c
  else
    unread c
    stringBody quote 1 start 0 (← fuel)

/-! ## Names -/

/-- Refuses a name with a character that identifiers cannot have. -/
def checkName (start : Nat) : Scan Unit := do
  let s ← get
  let name := (s.chars.extract start s.cur).toList
  match Text.firstNonIdentifier? name with
  | none => pure ()
  | some i =>
    let c := name.getD i ' '
    set { s with cur := start + i + 1 }
    refuse (if Text.isPrintable c then .invalidCharacter c else .nonPrintableCharacter c)

/-- The letters before the quote of a text, each at most once and in the orders that are allowed:
returns the quote, or the first character that is not part of such a start. -/
def stringPrefix (c : Char) (sawB sawR sawU sawF : Bool) : Nat → Scan (Option Char × Bool)
  | 0 => pure (some c, false)
  | fuel + 1 => do
    let go (b r u f : Bool) : Scan (Option Char × Bool) := do
      match ← next with
      | some '"' => return (some '"', true)
      | some '\'' => return (some '\'', true)
      | some c => stringPrefix c b r u f fuel
      | none => return (none, false)
    let l := c.toLower
    if !(sawB || sawU || sawF) && l = 'b' then go true sawR sawU sawF
    else if !(sawB || sawU || sawR || sawF) && l = 'u' then go sawB sawR true sawF
    else if !(sawR || sawU) && l = 'r' then go sawB true sawU sawF
    else if !(sawF || sawB || sawU) && l = 'f' then go sawB sawR sawU true
    else return (some c, false)

/-! ## Tokens -/

/-- The width of the indentation at the start of a line, counted in both ways, and the width before
the first continuation, if there is one. -/
def indentation (col alt cont : Nat) : Nat → Scan (Nat × Nat × Nat)
  | 0 => pure (col, alt, cont)
  | fuel + 1 => do
    let c ← next
    match c with
    | some ' ' => indentation (col + 1) (alt + 1) cont fuel
    | some '\t' => indentation ((col / 8 + 1) * 8) (alt + 1) cont fuel
    | some '\x0c' => indentation 0 0 cont fuel
    | some '\\' =>
      continueLine
      indentation col alt (if cont ≠ 0 then cont else col) fuel
    | _ =>
      unread c
      return (col, alt, cont)

/-- Compares the indentation of a line with the open blocks. -/
def openOrClose (col alt : Nat) : Scan Unit := do
  let s ← get
  let (top, topAlt) := s.indents.headD (0, 0)
  if col = top then
    if alt ≠ topAlt then stopAtLineEnd .inconsistentTabs
  else if col > top then
    if s.indents.length ≥ Scanner.maxIndents then stopAtLineEnd .tooManyIndents
    if alt ≤ topAlt then stopAtLineEnd .inconsistentTabs
    modify fun s => { s with pending := s.pending + 1, indents := (col, alt) :: s.indents }
  else
    let kept := s.indents.dropWhile fun (c, _) => col < c
    let kept := if kept.isEmpty then [(0, 0)] else kept
    set { s with pending := s.pending - (s.indents.length - kept.length : Nat), indents := kept }
    let (top, topAlt) := kept.headD (0, 0)
    if col ≠ top then stopAtLineEnd .inconsistentDedent
    if alt ≠ topAlt then stopAtLineEnd .inconsistentTabs

/-- Counts a bracket. -/
def bracket (c : Char) (start : Nat) : Scan Unit := do
  let s ← get
  match c with
  | '(' | '[' | '{' =>
    if s.brackets.length ≥ Scanner.maxBrackets then refuse .tooManyParentheses
    set { s with brackets := ⟨c, s.line, s.bytesBetween s.lineStart start⟩ :: s.brackets }
  | ')' | ']' | '}' =>
    match s.brackets with
    | [] => refuse (.unmatchedClosing c)
    | b :: rest =>
      set { s with brackets := rest }
      let pairs := (b.char = '(' && c = ')') || (b.char = '[' && c = ']') ||
        (b.char = '{' && c = '}')
      if !pairs then
        refuse (.mismatchedClosing c b.char (if b.line ≠ s.line then some b.line else none))
  | _ => pure ()

/-- The operator that begins with `c`. -/
def operator (c : Char) (start : Nat) : Scan Unit := do
  let c2 ← next
  let double := (c2.map (isDoubleOperator c)).getD false
  if double then
    let c3 ← next
    let triple := (c2.bind fun b => c3.map fun d => isTripleOperator c b d).getD false
    if !triple then unread c3
  else
    unread c2
    bracket c start
    if !Text.isPrintable c then refuse (.nonPrintableCharacter c)

/-- What was scanned: its kind and the positions of its text. -/
structure Scanned where
  kind : TokenKind
  start : Option Nat := none
  stop : Option Nat := none

/-- A token that ends where reading stands. -/
def ended (kind : TokenKind) (start : Nat) : Scan Scanned := do
  return { kind, start := some start, stop := some (← get).cur }

/-- Scans from the middle of a line. `none` means that the line ended without a token. -/
def inLine (blank : Bool) : Nat → Scan (Option Scanned)
  | 0 => pure none
  | fuel + 1 => do
    modify fun s => { s with tokenStart := none }
    let c ← skipWhile (fun c => c = ' ' || c = '\t' || c = '\x0c') (← Scan.fuel)
    let start := (← get).cur - 1
    modify fun s => { s with tokenStart := some start }
    let c ← if c = some '#' then skipWhile (· ≠ '\n') (← Scan.fuel) else pure c
    match c with
    | none =>
      if !(← get).brackets.isEmpty then throw ()
      if (← get).status = .atEnd then return some { kind := .endMarker } else throw ()
    | some c =>
      if mayBeginName c then
        let (c, quoted) ← stringPrefix c false false false false 4
        if quoted then
          string (c.getD '"') start
          return some (← ended .string start)
        let rest ←
          if (c.map mayBeInName).getD false then skipWhile mayBeInName (← Scan.fuel) else pure c
        unread rest
        checkName start
        return some (← ended .name start)
      else if c = '\n' then
        modify fun s => { s with atLineStart := true }
        let s ← get
        if blank || !s.brackets.isEmpty then return none
        return some { kind := .newline, start := some start, stop := some (s.cur - 1) }
      else if c = '.' then
        let c ← next
        if (c.map Char.isDigit).getD false then
          unread (← fractionPart c)
          return some (← ended .number start)
        else if c = some '.' then
          let c ← next
          if c = some '.' then return some (← ended .op start)
          unread c
          unread (some '.')
          return some (← ended .op start)
        else
          unread c
          return some (← ended .op start)
      else if c.isDigit then
        number c start
        return some (← ended .number start)
      else if c = '\'' || c = '"' then
        string c start
        return some (← ended .string start)
      else if c = '\\' then
        continueLine
        inLine blank fuel
      else
        operator c start
        return some (← ended .op start)

/-- Scans one token from where reading stands. -/
def token : Nat → Scan Scanned
  | 0 => throw ()
  | fuel + 1 => do
    modify fun s => { s with tokenStart := none }
    let mut blank := false
    if (← get).atLineStart then
      modify fun s => { s with atLineStart := false }
      let (col, alt, cont) ← indentation 0 0 0 (← Scan.fuel)
      let s ← get
      let c := if s.cur < s.chars.size then s.chars[s.cur]? else none
      blank := c = some '#' || c = some '\n'
      if !blank && s.brackets.isEmpty then
        if cont ≠ 0 then openOrClose cont cont else openOrClose col alt
    modify fun s => { s with tokenStart := some s.cur }
    let s ← get
    if s.pending < 0 then
      set { s with pending := s.pending + 1 }
      return { kind := .dedent }
    if s.pending > 0 then
      set { s with pending := s.pending - 1 }
      return { kind := .indent }
    match ← inLine blank (← Scan.fuel) with
    | some t => return t
    | none => token fuel

end Scan

namespace Scanner

/-- The next token. Its kind is `invalid` where there is none; the scanner's status tells why. -/
def nextToken (s : Scanner) : Token × Scanner :=
  let (result, s) := (Scan.token (s.chars.size + 1)).run.run s
  let scanned : Scan.Scanned :=
    match result with
    | .ok t => t
    | .error _ => { kind := .invalid }
  let lineStart := if scanned.kind = .string then s.stringLineStart else s.lineStart
  let line := if scanned.kind = .string then s.stringLine else s.line
  let column (origin : Nat) : Option Nat → Int
    | some i => if i ≥ origin then s.bytesBetween origin i else -1
    | none => -1
  let text :=
    match scanned.start, scanned.stop with
    | some a, some b => String.ofList (s.chars.extract a b).toList
    | _, _ => ""
  let kind := if scanned.kind = .name && isKeyword text then .keyword else scanned.kind
  let token : Token :=
    { kind, text, depth := s.brackets.length
      span := ⟨line, column lineStart scanned.start, s.line, column s.lineStart scanned.stop⟩ }
  (token, s)

end Scanner

end Playground.Source
