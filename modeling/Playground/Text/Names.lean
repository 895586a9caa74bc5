import Playground.Text.Name.Letter
import Playground.Text.Name.Pictograph
import Playground.Text.Name.Symbol

/-!
# Names of characters

Every character has a name in the Unicode character database. The names of ideographs and of Korean
syllables follow rules; the others are tables, which are kept here for the scripts and symbols in
common use. Case does not matter, save where a rule makes the name.
-/

namespace Playground.Text

namespace Name

/-- Characters that the tables leave out, and other names of controls and of invisible characters. -/
def aliases : List (String × Nat) := [
  ("NULL", 0x0), ("NUL", 0x0), ("START OF HEADING", 0x1), ("SOH", 0x1), ("START OF TEXT", 0x2),
  ("STX", 0x2), ("END OF TEXT", 0x3), ("ETX", 0x3), ("END OF TRANSMISSION", 0x4), ("EOT", 0x4),
  ("ENQUIRY", 0x5), ("ENQ", 0x5), ("ACKNOWLEDGE", 0x6), ("ACK", 0x6), ("ALERT", 0x7), ("BEL", 0x7),
  ("BACKSPACE", 0x8), ("BS", 0x8), ("CHARACTER TABULATION", 0x9), ("HORIZONTAL TABULATION", 0x9),
  ("HT", 0x9), ("TAB", 0x9), ("LINE FEED", 0xA), ("NEW LINE", 0xA), ("END OF LINE", 0xA),
  ("LF", 0xA), ("NL", 0xA), ("EOL", 0xA), ("LINE TABULATION", 0xB), ("VERTICAL TABULATION", 0xB),
  ("VT", 0xB), ("FORM FEED", 0xC), ("FF", 0xC), ("CARRIAGE RETURN", 0xD), ("CR", 0xD),
  ("SHIFT OUT", 0xE), ("LOCKING-SHIFT ONE", 0xE), ("SO", 0xE), ("SHIFT IN", 0xF),
  ("LOCKING-SHIFT ZERO", 0xF), ("SI", 0xF), ("DATA LINK ESCAPE", 0x10), ("DLE", 0x10),
  ("DEVICE CONTROL ONE", 0x11), ("DC1", 0x11), ("DEVICE CONTROL TWO", 0x12), ("DC2", 0x12),
  ("DEVICE CONTROL THREE", 0x13), ("DC3", 0x13), ("DEVICE CONTROL FOUR", 0x14), ("DC4", 0x14),
  ("NEGATIVE ACKNOWLEDGE", 0x15), ("NAK", 0x15), ("SYNCHRONOUS IDLE", 0x16), ("SYN", 0x16),
  ("END OF TRANSMISSION BLOCK", 0x17), ("ETB", 0x17), ("CANCEL", 0x18), ("CAN", 0x18),
  ("END OF MEDIUM", 0x19), ("EOM", 0x19), ("SUBSTITUTE", 0x1A), ("SUB", 0x1A), ("ESCAPE", 0x1B),
  ("ESC", 0x1B), ("INFORMATION SEPARATOR FOUR", 0x1C), ("FILE SEPARATOR", 0x1C), ("FS", 0x1C),
  ("INFORMATION SEPARATOR THREE", 0x1D), ("GROUP SEPARATOR", 0x1D), ("GS", 0x1D),
  ("INFORMATION SEPARATOR TWO", 0x1E), ("RECORD SEPARATOR", 0x1E), ("RS", 0x1E),
  ("INFORMATION SEPARATOR ONE", 0x1F), ("UNIT SEPARATOR", 0x1F), ("US", 0x1F), ("DELETE", 0x7F),
  ("DEL", 0x7F), ("NEXT LINE", 0x85), ("NEL", 0x85), ("NBSP", 0xA0), ("SHY", 0xAD), ("SP", 0x20),
  ("ZWSP", 0x200B), ("ZWNJ", 0x200C), ("ZWJ", 0x200D), ("LRM", 0x200E), ("RLM", 0x200F),
  ("BYTE ORDER MARK", 0xFEFF), ("BOM", 0xFEFF), ("ZWNBSP", 0xFEFF), ("WJ", 0x2060), ("CGJ", 0x34F),
  ("ZERO WIDTH NO-BREAK SPACE", 0xFEFF), ("REPLACEMENT CHARACTER", 0xFFFD),
  ("OBJECT REPLACEMENT CHARACTER", 0xFFFC), ("COMBINING ACUTE ACCENT", 0x301),
  ("COMBINING GRAVE ACCENT", 0x300), ("COMBINING DIAERESIS", 0x308),
  ("COMBINING CIRCUMFLEX ACCENT", 0x302), ("COMBINING TILDE", 0x303), ("COMBINING CEDILLA", 0x327),
  ("COMBINING GRAPHEME JOINER", 0x34F), ("LATIN SMALL LIGATURE FI", 0xFB01),
  ("LATIN SMALL LIGATURE FF", 0xFB00), ("IDEOGRAPHIC SPACE", 0x3000), ("HEBREW LETTER ALEF", 0x5D0),
  ("ARABIC LETTER ALEF", 0x627), ("HIRAGANA LETTER A", 0x3042), ("KATAKANA LETTER A", 0x30A2),
  ("VARIATION SELECTOR-16", 0xFE0F), ("VS16", 0xFE0F), ("OGHAM SPACE MARK", 0x1680),
  ("MUSICAL SYMBOL G CLEF", 0x1D11E), ("MATHEMATICAL BOLD CAPITAL A", 0x1D400),
  ("MATHEMATICAL FRAKTUR CAPITAL A", 0x1D504)]

/-- The runs of ideographs. -/
def ideographs : List (Nat × Nat) := [
  (0x3400, 0x4DBF), (0x4E00, 0x9FFF), (0x20000, 0x2A6DF), (0x2A700, 0x2B738), (0x2B740, 0x2B81D),
  (0x2B820, 0x2CEA1), (0x2CEB0, 0x2EBE0), (0x30000, 0x3134A)]

/-- The consonants that begin a syllable. -/
def initials : List String := [
  "G", "GG", "N", "D", "DD", "R", "M", "B", "BB", "S", "SS", "", "J", "JJ", "C", "K", "T", "P", "H"]

/-- The vowels of syllables. -/
def vowels : List String := [
  "A", "AE", "YA", "YAE", "EO", "E", "YEO", "YE", "O", "WA", "WAE", "OE", "YO", "U", "WEO", "WE",
  "WI", "YU", "EU", "YI", "I"]

/-- The consonants that end a syllable. -/
def finals : List String := [
  "", "G", "GG", "GS", "N", "NJ", "NH", "D", "L", "LG", "LM", "LB", "LS", "LT", "LP", "LH", "M",
  "B", "BS", "S", "SS", "NG", "J", "C", "K", "T", "P", "H"]

/-- What follows a text that another begins with. -/
def after? (start name : String) : Option (List Char) :=
  if start.toList.isPrefixOf name.toList then some (name.toList.drop start.length) else none

/-- The value of a digit in base sixteen, written with a capital letter if it is one. -/
def digit? (c : Char) : Option Nat :=
  if c.isDigit then some (c.toNat - 48)
  else if 'A' ≤ c ∧ c ≤ 'F' then some (c.toNat - 55)
  else none

/-- The ideograph of a name, which gives its code point. -/
def ideograph? (name : String) : Option Nat := do
  let code ← after? "CJK UNIFIED IDEOGRAPH-" name
  if code.length ≠ 4 ∧ code.length ≠ 5 then none
  let digits ← code.mapM digit?
  let n := digits.foldl (fun n d => n * 16 + d) 0
  if ideographs.any fun (first, last) => first ≤ n && n ≤ last then some n else none

/-- The Korean syllable of a name, which gives its letters: the longest vowel that fits after the
longest consonant counts. -/
def syllable? (name : String) : Option Nat := do
  let letters ← after? "HANGUL SYLLABLE " name
  let longest (parts : List String) (text : List Char) : Option (Nat × List Char) :=
    let fitting := parts.zipIdx.filter fun (part, _) => part.toList.isPrefixOf text
    (fitting.foldl (fun best (part, i) =>
      match best with
      | some (_, length) => if length < part.length then some (i, part.length) else best
      | none => some (i, part.length)) none).map fun (i, length) => (i, text.drop length)
  let (initial, rest) ← longest initials letters
  let (vowel, rest) ← longest vowels rest
  let (final, rest) ← longest finals rest
  if rest.isEmpty then some (0xAC00 + (initial * 21 + vowel) * 28 + final) else none

/-- The character of a name in runs of consecutive ones. -/
def inRuns? (runs : List (Nat × List String)) (name : String) : Option Nat :=
  runs.findSome? fun (first, names) => (names.idxOf? name).map (first + ·)

/-- The code point of a name. -/
def code? (name : String) : Option Nat :=
  let capital := String.ofList (name.toList.map Char.toUpper)
  syllable? name <|> ideograph? name <|> inRuns? letters capital <|> inRuns? symbols capital
    <|> inRuns? pictographs capital <|> aliases.lookup capital

end Name

/-- The character of a name in the Unicode character database. -/
def charNamed? (name : String) : Option Char :=
  (Name.code? name).map Char.ofNat

end Playground.Text
