/-!
# Syntax faults

What is wrong with a source text that does not compile. `Cause` names the reason and
`Cause.message` words it; `SyntaxFault` adds the family of the fault and the place, in the terms in
which compilers report it: lines from one, columns in characters from one.
-/

namespace Playground.Source

/-- The families of syntax faults. -/
inductive FaultKind where
  | syntaxError
  | indentationError
  | tabError
  deriving DecidableEq, Repr, Inhabited

/-- A syntax fault as compilers report it; any part of the place may be missing. -/
structure SyntaxFault where
  kind : FaultKind
  message : Option String
  line : Option Int
  offset : Option Int
  endLine : Option Int
  endOffset : Option Int
  deriving Repr, Inhabited

/-- A warning: its message and its line, and whether it concerns syntax rather than a deprecated
form. A line of `-1` means that it concerns no line. -/
structure SourceWarning where
  message : String
  line : Int
  isSyntax : Bool
  deriving Repr, Inhabited

/-- What keeps a text from being read or compiled to its end. -/
inductive Stop where
  | fault (f : SyntaxFault)
  /-- The text, or its tree, is nested more deeply than is allowed. -/
  | tooDeep
  deriving Inhabited

/-- The notations of numbers. -/
inductive Radix where
  | binary | octal | decimal | hexadecimal | imaginary
  deriving DecidableEq, Repr, Inhabited

/-- The name of a notation. -/
def Radix.word : Radix → String
  | .binary => "binary"
  | .octal => "octal"
  | .decimal => "decimal"
  | .hexadecimal => "hexadecimal"
  | .imaginary => "imaginary"

/-- A number in base sixteen, with capital letters and at least four digits. -/
def hexCodePoint (n : Nat) : String :=
  let digits := (Nat.toDigits 16 n).map Char.toUpper
  String.ofList (List.replicate (4 - digits.length) '0' ++ digits)

/-- The reasons for which a text is refused before it has a syntax tree. -/
inductive Cause where
  -- Characters and tokens.
  | invalidCharacter (c : Char)
  | nonPrintableCharacter (c : Char)
  | invalidNumber (radix : Radix)
  | invalidDigit (c : Char) (radix : Radix)
  | leadingZeros
  | hugeInteger (digits : Nat)
  | unterminatedString (line : Nat)
  | unterminatedTripleString (line : Nat)
  | tooManyParentheses
  | unmatchedClosing (c : Char)
  | mismatchedClosing (closing opening : Char) (line : Option Nat)
  | neverClosed (c : Char)
  | unexpectedEnd
  | afterContinuation
  | inconsistentDedent
  | inconsistentTabs
  | tooManyIndents
  | unexpectedIndent
  | unexpectedUnindent
  -- Texts.
  | undecodable (kind detail : String)
  | mixedBytes
  | nonAsciiBytes
  | field (detail : String)
  | fieldBackslash
  | fieldComment
  -- Grammar.
  | invalidSyntax
  | expected (what : String)
  | expectedBlock (after : Option (String × Nat))
  | forgottenComma
  | forgottenElse
  | legacyCall (name : String)
  | notComparison
  | cannotAssign (what : String)
  | cannotAssignHere (what : String)
  | cannotDelete (what : String)
  | cannotNameResult (what : String)
  | singleTargetOnly (what : String)
  | notAnnotatable
  | assignmentToYield
  | notAugmentable (what : String)
  | unpackingInComprehension
  | targetWithoutParentheses
  | nothingToUnpack
  | dictUnpackingInComprehension
  | starredAfterDoubleStarred
  | bareGenerator
  | positionalAfterKeyword
  | positionalAfterUnpacking
  | assignmentInArgument
  | plainAfterDefault
  | parenthesizedParameters (inLambda : Bool)
  | slashFirst
  | slashTwice
  | slashAfterStar
  | commaBetweenSlashAndStar
  | missingDefault
  | nothingAfterStar
  | defaultOfStar
  | defaultOfDoubleStar
  | starTwice
  | afterDoubleStar
  | starredGroup
  | doubleStarredGroup
  | trailingImportComma
  | missingHandler
  | mixedHandlers
  | bareExceptionTypes
  | missingExceptionType
  | wildcardTarget
  | invalidPatternTarget
  | positionalAfterKeywordPattern
  | missingDictValue
  | missingDictColon
  | starredDictValue
  | realPartExpected
  | imaginaryPartExpected
  deriving Inhabited

/-- The wording of a cause. -/
def Cause.message : Cause → String
  | .invalidCharacter c => s!"invalid character '{c}' (U+{hexCodePoint c.toNat})"
  | .nonPrintableCharacter c => s!"invalid non-printable character U+{hexCodePoint c.toNat}"
  | .invalidNumber radix => s!"invalid {radix.word} literal"
  | .invalidDigit c radix => s!"invalid digit '{c}' in {radix.word} literal"
  | .leadingZeros =>
    "leading zeros in decimal integer literals are not permitted; use an 0o prefix for octal integers"
  | .hugeInteger digits =>
    s!"Exceeds the limit (4300 digits) for integer string conversion: value has {digits} digits; use sys.set_int_max_str_digits() to increase the limit - Consider hexadecimal for huge integer literals to avoid decimal conversion limits."
  | .unterminatedString line => s!"unterminated string literal (detected at line {line})"
  | .unterminatedTripleString line =>
    s!"unterminated triple-quoted string literal (detected at line {line})"
  | .tooManyParentheses => "too many nested parentheses"
  | .unmatchedClosing c => s!"unmatched '{c}'"
  | .mismatchedClosing closing opening none =>
    s!"closing parenthesis '{closing}' does not match opening parenthesis '{opening}'"
  | .mismatchedClosing closing opening (some line) =>
    s!"closing parenthesis '{closing}' does not match opening parenthesis '{opening}' on line {line}"
  | .neverClosed c => s!"'{c}' was never closed"
  | .unexpectedEnd => "unexpected EOF while parsing"
  | .afterContinuation => "unexpected character after line continuation character"
  | .inconsistentDedent => "unindent does not match any outer indentation level"
  | .inconsistentTabs => "inconsistent use of tabs and spaces in indentation"
  | .tooManyIndents => "too many levels of indentation"
  | .unexpectedIndent => "unexpected indent"
  | .unexpectedUnindent => "unexpected unindent"
  | .undecodable kind detail => s!"({kind}) {detail}"
  | .mixedBytes => "cannot mix bytes and nonbytes literals"
  | .nonAsciiBytes => "bytes can only contain ASCII literal characters"
  | .field detail => s!"f-string: {detail}"
  | .fieldBackslash => "f-string expression part cannot include a backslash"
  | .fieldComment => "f-string expression part cannot include '#'"
  | .invalidSyntax => "invalid syntax"
  | .expected what => s!"expected '{what}'"
  | .expectedBlock none => "expected an indented block"
  | .expectedBlock (some (after, line)) => s!"expected an indented block after {after} on line {line}"
  | .forgottenComma => "invalid syntax. Perhaps you forgot a comma?"
  | .forgottenElse => "expected 'else' after 'if' expression"
  | .legacyCall name =>
    s!"Missing parentheses in call to '{name}'. Did you mean {name}(...)?"
  | .notComparison => "invalid syntax. Maybe you meant '==' or ':=' instead of '='?"
  | .cannotAssign what => s!"cannot assign to {what}"
  | .cannotAssignHere what => s!"cannot assign to {what} here. Maybe you meant '==' instead of '='?"
  | .cannotDelete what => s!"cannot delete {what}"
  | .cannotNameResult what => s!"cannot use assignment expressions with {what}"
  | .singleTargetOnly what => s!"only single target (not {what}) can be annotated"
  | .notAnnotatable => "illegal target for annotation"
  | .assignmentToYield => "assignment to yield expression not possible"
  | .notAugmentable what => s!"'{what}' is an illegal expression for augmented assignment"
  | .unpackingInComprehension => "iterable unpacking cannot be used in comprehension"
  | .nothingToUnpack => "Invalid star expression"
  | .targetWithoutParentheses => "did you forget parentheses around the comprehension target?"
  | .dictUnpackingInComprehension => "dict unpacking cannot be used in dict comprehension"
  | .starredAfterDoubleStarred => "iterable argument unpacking follows keyword argument unpacking"
  | .bareGenerator => "Generator expression must be parenthesized"
  | .positionalAfterKeyword => "positional argument follows keyword argument"
  | .positionalAfterUnpacking => "positional argument follows keyword argument unpacking"
  | .assignmentInArgument => "expression cannot contain assignment, perhaps you meant \"==\"?"
  | .plainAfterDefault => "non-default argument follows default argument"
  | .parenthesizedParameters false => "Function parameters cannot be parenthesized"
  | .parenthesizedParameters true => "Lambda expression parameters cannot be parenthesized"
  | .slashFirst => "at least one argument must precede /"
  | .slashTwice => "/ may appear only once"
  | .slashAfterStar => "/ must be ahead of *"
  | .commaBetweenSlashAndStar => "expected comma between / and *"
  | .missingDefault => "expected default value expression"
  | .nothingAfterStar => "named arguments must follow bare *"
  | .defaultOfStar => "var-positional argument cannot have default value"
  | .defaultOfDoubleStar => "var-keyword argument cannot have default value"
  | .starTwice => "* argument may appear only once"
  | .afterDoubleStar => "arguments cannot follow var-keyword argument"
  | .starredGroup => "cannot use starred expression here"
  | .doubleStarredGroup => "cannot use double starred expression here"
  | .trailingImportComma => "trailing comma not allowed without surrounding parentheses"
  | .missingHandler => "expected 'except' or 'finally' block"
  | .mixedHandlers => "cannot have both 'except' and 'except*' on the same 'try'"
  | .bareExceptionTypes => "multiple exception types must be parenthesized"
  | .missingExceptionType => "expected one or more exception types"
  | .wildcardTarget => "cannot use '_' as a target"
  | .invalidPatternTarget => "invalid pattern target"
  | .positionalAfterKeywordPattern => "positional patterns follow keyword patterns"
  | .missingDictValue => "expression expected after dictionary key and ':'"
  | .missingDictColon => "':' expected after dictionary key"
  | .starredDictValue => "cannot use a starred expression in a dictionary value"
  | .realPartExpected => "real number required in complex literal"
  | .imaginaryPartExpected => "imaginary number required in complex literal"

end Playground.Source
