import Playground.Source.Grammar.Parameter
import Playground.Source.Grammar.Pattern
import Playground.Source.Grammar.Statement

/-!
# Frequent mistakes

Rules that are tried when a module does not parse. Each fits a text that people write when they mean
something else, and says what is wrong with it. Their order matters: the first that fits decides
the fault.
-/

namespace Playground.Source.Grammar

open Playground.Source.Parser

variable (call : Reader)

/-- Skips a token. -/
def skip (p : Parser Token) : Parser Unit := discard p

/-- The number of brackets open after the last token that was read. -/
def openBrackets : Parser Nat := fun _ s =>
  .done ((s.tokens[s.mark - 1]?.map Token.depth).getD 0) s

/-! ## Arguments -/

def badArguments : Parser Unit :=
  firstOf [
    do
      let a ← call .args
      skip (op ",")
      skip (op "*")
      refuse a.span .starredAfterDoubleStarred,
    do
      let a ← call .expression
      let b ← call .forIfClauses
      skip (op ",")
      let _ ← maybe (choice [
        discard (call .args),
        do
          let _ ← call .expression
          discard (call .forIfClauses)])
      refuseBetween a.span (b.getLastD default).lastExpr.span .bareGenerator,
    do
      let a ← name
      let b ← op "="
      let _ ← call .expression
      let _ ← call .forIfClauses
      refuseBetween a.span b.span .notComparison,
    do
      let a ← call .args
      let b ← call .forIfClauses
      if a.args.length ≤ 1 then decline
      else
        refuseBetween (a.args.getLastD default).span (b.getLastD default).lastExpr.span
          .bareGenerator,
    do
      let _ ← call .args
      skip (op ",")
      let a ← call .expression
      let b ← call .forIfClauses
      refuseBetween a.span (b.getLastD default).lastExpr.span .bareGenerator,
    do
      let a ← call .args
      skip (op ",")
      let _ ← call .args
      refuseLast (
        if a.keywords.any fun k => k.name.isNone then .positionalAfterUnpacking
        else .positionalAfterKeyword)]

def badLateArgument : Parser Unit :=
  firstOf [
    do
      let a ← choice [kw "True", kw "False", kw "None"]
      let b ← op "="
      refuseBetween a.span b.span (.cannotAssign a.text),
    do
      let a ← name
      let b ← op "="
      let _ ← call .expression
      let _ ← call .forIfClauses
      refuseBetween a.span b.span .notComparison,
    do
      notAhead (nested do
        let _ ← name
        op "=")
      let a ← call .expression
      let b ← op "="
      refuseBetween a.span b.span .assignmentInArgument]

/-! ## Expressions -/

/-- Statements of old that look like calls without parentheses. -/
def isLegacy (id : String) : Bool :=
  id == "print" || id == "exec"

def badLegacyCall : Parser Unit :=
  firstOf [
    do
      let a ← name
      notAhead (op "(")
      let b ← call .starExpressions
      if isLegacy a.name then refuseBetween a.span b.span (.legacyCall a.name) else decline]

def badExpression : Parser Unit :=
  firstOf [
    do
      notAhead (choice [
        do
          let _ ← name
          kind .string,
        anySoft])
      let a ← call .disjunction
      let b ← call .plainExpression
      let legacy :=
        match a.form with
        | .name id _ => isLegacy id
        | _ => false
      if legacy || (← openBrackets) = 0 then decline
      else refuseBetween a.span b.span .forgottenComma,
    do
      let a ← call .disjunction
      skip (kw "if")
      let b ← call .disjunction
      notAhead (choice [kw "else", op ":"])
      refuseBetween a.span b.span .forgottenElse]

/-- What must not follow a value that was mistaken for a comparison. -/
def noAssignment : Parser Unit := notAhead (choice [op "=", op ":="])

def badNamedExpression : Parser Unit :=
  firstOf [
    do
      let a ← call .expression
      skip (op ":=")
      let _ ← call .expression
      refuse a.span (.cannotNameResult a.kindName),
    do
      let a ← name
      skip (op "=")
      let b ← call .bitwiseOr
      noAssignment
      refuseBetween a.span b.span .notComparison,
    do
      notAhead (choice [
        discard (call .list), discard (call .tuple), discard (call .generator),
        discard (kw "True"), discard (kw "None"), discard (kw "False")])
      let a ← call .bitwiseOr
      skip (op "=")
      let _ ← call .bitwiseOr
      noAssignment
      refuse a.span (.cannotAssignHere a.kindName)]

def badGroup : Parser Unit :=
  firstOf [
    do
      skip (op "(")
      let a ← call .starredExpression
      skip (op ")")
      refuse a.span .starredGroup,
    do
      skip (op "(")
      let a ← op "**"
      let _ ← call .expression
      skip (op ")")
      refuse a.span .doubleStarredGroup]

def badComprehension : Parser Unit :=
  firstOf [
    do
      skip (choice [op "[", op "(", op "\x7b"])
      let a ← call .starredExpression
      let _ ← call .forIfClauses
      refuse a.span .unpackingInComprehension,
    do
      skip (choice [op "[", op "\x7b"])
      let a ← call .starNamedExpression
      skip (op ",")
      let b ← call .starNamedExpressions
      let _ ← call .forIfClauses
      refuseBetween a.span (b.getLastD default).span .targetWithoutParentheses,
    do
      skip (choice [op "[", op "\x7b"])
      let a ← call .starNamedExpression
      let b ← op ","
      let _ ← call .forIfClauses
      refuseBetween a.span b.span .targetWithoutParentheses]

def badDictComprehension : Parser Unit :=
  firstOf [
    do
      skip (op "\x7b")
      let a ← op "**"
      let _ ← call .bitwiseOr
      let _ ← call .forIfClauses
      skip (op "\x7d")
      refuse a.span .dictUnpackingInComprehension]

/-- A key whose value is starred or missing. -/
def badValue : List (Parser Unit) := [
  do
    let _ ← call .expression
    skip (op ":")
    let a ← op "*"
    let _ ← call .bitwiseOr
    refuseFrom a.span .starredDictValue,
  do
    let _ ← call .expression
    let a ← op ":"
    ahead (choice [op "\x7d", op ","])
    refuse a.span .missingDictValue]

def badDictItems : Parser Unit :=
  firstOf ((do
    let _ ← commaSep (call .dictItem)
    skip (op ",")
    call .badKeyValue) :: badValue call)

def badKeyValue : Parser Unit :=
  firstOf ((do
    let a ← call .expression
    notAhead (op ":")
    refuse ⟨a.span.line, a.span.endCol - 1, a.span.endLine, -1⟩ .missingDictColon) ::
      badValue call)

/-! ## Assignments and deletions -/

/-- Targets, each with its `=`. -/
def assignedTargets : Parser Unit :=
  discard (many (nested do
    let _ ← call .starTargets
    op "="))

def badAssignment : Parser Unit :=
  firstOf [
    do
      let a ← call .badAnnotationTarget
      skip (op ":")
      let _ ← call .expression
      refuse a.span (.singleTargetOnly a.kindName),
    do
      let a ← call .starNamedExpression
      skip (op ",")
      let _ ← many (call .starNamedExpressions)
      skip (op ":")
      let _ ← call .expression
      refuse a.span (.singleTargetOnly "tuple"),
    do
      let a ← call .expression
      skip (op ":")
      let _ ← call .expression
      refuse a.span .notAnnotatable,
    do
      assignedTargets call
      let a ← call .starExpressions
      skip (op "=")
      refuseTarget .assignment a,
    do
      assignedTargets call
      let a ← call .yieldExpr
      skip (op "=")
      refuse a.span .assignmentToYield,
    do
      let a ← call .starExpressions
      let _ ← call .augmentedOp
      let _ ← yieldOrStar call
      refuse a.span (.notAugmentable a.kindName)]

def badAnnotationTarget : Parser Expr :=
  firstOf [
    call .list,
    call .tuple,
    do
      skip (op "(")
      let a ← call .badAnnotationTarget
      skip (op ")")
      return a]

def badDelStatement : Parser Unit :=
  firstOf [
    do
      skip (kw "del")
      let a ← call .starExpressions
      refuseTarget .deletion a]

def badForTarget : Parser Unit :=
  firstOf [
    do
      let _ ← maybe (kw "async")
      skip (kw "for")
      let a ← call .starExpressions
      refuseTarget .loop a]

def badWithItem : Parser Unit :=
  firstOf [
    do
      let _ ← call .expression
      skip (kw "as")
      let a ← call .expression
      itemEnd
      refuseTarget .assignment a]

/-! ## Parameters -/

/-- The mistakes that both kinds of parameter lists share. -/
def badParameterList (r : ParamRules) (helper : Parser Unit) (parenthesized : Parser Unit)
    (inLambda : Bool) : Parser Unit :=
  let slashed : Parser Unit := choice [discard r.slashPlain, discard r.slashDefault]
  firstOf [
    do
      let _ ← many r.plain
      helper
      let a ← r.plain
      refuse a.span .plainAfterDefault,
    do
      let _ ← many r.plain
      let a ← op "("
      parenthesized
      let _ ← maybe (op ",")
      let b ← op ")"
      refuseBetween a.span b.span (.parenthesizedParameters inLambda),
    do
      let a ← op "/"
      skip (op ",")
      refuse a.span .slashFirst,
    do
      slashed
      let _ ← many r.maybeDefault
      let a ← op "/"
      refuse a.span .slashTwice,
    do
      let _ ← maybe slashed
      let _ ← many r.maybeDefault
      skip (op "*")
      choice [skip (op ","), discard r.plain]
      let _ ← many r.maybeDefault
      let a ← op "/"
      refuse a.span .slashAfterStar,
    do
      let _ ← many1 r.maybeDefault
      skip (op "/")
      let a ← op "*"
      refuse a.span .commaBetweenSlashAndStar]

def badParameters : Parser Unit :=
  badParameterList (functionParams call) (call .badParametersHelper)
    (discard (many1 (call .paramPlain))) false

def badParametersHelper : Parser Unit :=
  firstOf [discard (call .slashDefault), discard (many1 (call .paramDefault))]

def badLambdaParameters : Parser Unit :=
  badParameterList (lambdaRules call) (call .badLambdaParametersHelper)
    (discard (commaSep (call .lambdaParam))) true

def badLambdaParametersHelper : Parser Unit :=
  firstOf [discard (call .lambdaSlashDefault), discard (many1 (call .lambdaParamDefault))]

def badDefault : Parser Unit :=
  firstOf [
    do
      let a ← op "="
      ahead (choice [op ")", op ","])
      refuse a.span .missingDefault]

/-- The mistakes after a star that both kinds of parameter lists share. -/
def badStars (r : ParamRules) (param : Parser Param) : List (Parser Unit) := [
  do
    skip (op "*")
    let _ ← param
    let a ← op "="
    refuse a.span .defaultOfStar,
  do
    skip (op "*")
    choice [discard r.plain, skip (op ",")]
    let _ ← many r.maybeDefault
    let a ← op "*"
    choice [discard r.plain, skip (op ",")]
    refuse a.span .starTwice]

/-- A star that nothing of use follows. -/
def loneStar (r : ParamRules) : Parser Token := do
  let a ← op "*"
  choice [
    skip (op r.closing),
    do
      skip (op ",")
      choice [skip (op r.closing), skip (op "**")]]
  return a

def badStarParams : Parser Unit :=
  firstOf ((do
    let a ← loneStar (functionParams call)
    refuse a.span .nothingAfterStar) :: badStars (functionParams call) (call .param))

def badLambdaStarParams : Parser Unit :=
  firstOf ((do
    let _ ← loneStar (lambdaRules call)
    refuseLast .nothingAfterStar) :: badStars (lambdaRules call) (call .lambdaParam))

/-- The mistakes after two stars. -/
def badDoubleStar (param : Parser Param) : Parser Unit :=
  firstOf [
    do
      skip (op "**")
      let _ ← param
      let a ← op "="
      refuse a.span .defaultOfDoubleStar,
    do
      skip (op "**")
      let _ ← param
      skip (op ",")
      let a ← param
      refuse a.span .afterDoubleStar,
    do
      skip (op "**")
      let _ ← param
      skip (op ",")
      let a ← choice [op "*", op "**", op "/"]
      refuse a.span .afterDoubleStar]

def badKeywordParams : Parser Unit := badDoubleStar (call .param)

def badLambdaKeywordParams : Parser Unit := badDoubleStar (call .lambdaParam)

/-! ## Imports -/

def badImportTargets : Parser Unit :=
  firstOf [
    do
      let _ ← call .importFromNames
      skip (op ",")
      skip (kind .newline)
      refuseLast .trailingImportComma]

/-! ## Headers of compound statements -/

/-- A header that its line ends without a colon. -/
def missingColon : Parser Unit := do
  skip (kind .newline)
  refuseLast (.expected ":")

/-- A header that no indented block follows. -/
def missingBlock (what : String) (word : Token) : Parser Unit := do
  skip (op ":")
  skip (kind .newline)
  notAhead (kind .indent)
  refuseIndent (.expectedBlock (some (what, word.span.line)))

def badBlock : Parser Unit :=
  firstOf [
    do
      skip (kind .newline)
      notAhead (kind .indent)
      refuseIndent (.expectedBlock none)]

/-- The mistakes in a header that is a word and a condition. -/
def badCondition (word : String) : Parser Unit :=
  firstOf [
    do
      skip (kw word)
      let _ ← call .namedExpression
      missingColon,
    do
      let a ← kw word
      let _ ← call .namedExpression
      missingBlock s!"'{word}' statement" a]

def badIf : Parser Unit := badCondition call "if"

def badElif : Parser Unit := badCondition call "elif"

def badWhile : Parser Unit := badCondition call "while"

/-- The mistake in a header of one word. -/
def badBareHeader (word : String) : Parser Unit :=
  firstOf [
    do
      let a ← kw word
      missingBlock s!"'{word}' statement" a]

def badElse : Parser Unit := badBareHeader "else"

def badFinally : Parser Unit := badBareHeader "finally"

def badFor : Parser Unit :=
  let header : Parser Token := do
    let _ ← maybe (kw "async")
    let a ← kw "for"
    let _ ← call .starTargets
    skip (kw "in")
    let _ ← call .starExpressions
    return a
  firstOf [
    do
      let _ ← header
      missingColon,
    do
      let a ← header
      missingBlock "'for' statement" a]

/-- The headers of `with` statements: without and with parentheses. -/
def withHeaders : List (Parser Token) :=
  let item (e : Parser Expr) : Parser Unit := nested do
    let _ ← e
    let _ ← maybe (nested do
      let _ ← kw "as"
      call .starTarget)
  [do
    let _ ← maybe (kw "async")
    let a ← kw "with"
    let _ ← commaSep (item (call .expression))
    return a,
  do
    let _ ← maybe (kw "async")
    let a ← kw "with"
    skip (op "(")
    let _ ← commaSep (item (call .expressions))
    let _ ← maybe (op ",")
    skip (op ")")
    return a]

def badWith : Parser Unit :=
  firstOf ((withHeaders call).map fun header => do
    let _ ← header
    missingColon)

def badWithIndent : Parser Unit :=
  firstOf ((withHeaders call).map fun header => do
    let a ← header
    missingBlock "'with' statement" a)

def badDef : Parser Unit :=
  firstOf [
    do
      let _ ← maybe (kw "async")
      let a ← kw "def"
      let _ ← name
      skip (op "(")
      let _ ← maybe (call .params)
      skip (op ")")
      let _ ← maybe (nested do
        skip (op "->")
        call .expression)
      missingBlock "function definition" a]

def badClass : Parser Unit :=
  let header : Parser Token := do
    let a ← kw "class"
    let _ ← name
    let _ ← maybe (nested do
      skip (op "(")
      let _ ← maybe (call .arguments)
      op ")")
    return a
  firstOf [
    do
      let _ ← header
      missingColon,
    do
      let a ← header
      missingBlock "class definition" a]

/-! ## Exception handlers -/

/-- The name that a handler gives to its exception. -/
def handlerName : Parser Unit := discard asName

def badTry : Parser Unit :=
  let start : Parser Token := do
    let a ← kw "try"
    skip (op ":")
    return a
  firstOf [
    do
      let a ← kw "try"
      missingBlock "'try' statement" a,
    do
      let _ ← start
      let _ ← call .block
      notAhead (choice [kw "except", kw "finally"])
      refuseLast .missingHandler,
    do
      let _ ← start
      let _ ← many (call .block)
      let _ ← many1 (call .exceptBlock)
      let a ← kw "except"
      let b ← op "*"
      let _ ← call .expression
      handlerName
      skip (op ":")
      refuseBetween a.span b.span .mixedHandlers,
    do
      let _ ← start
      let _ ← many (call .block)
      let _ ← many1 (call .exceptStarBlock)
      let a ← kw "except"
      let _ ← maybe (nested do
        let _ ← call .expression
        handlerName)
      skip (op ":")
      refuse a.span .mixedHandlers]

def badExcept : Parser Unit :=
  firstOf [
    do
      skip (kw "except")
      let _ ← maybe (op "*")
      let a ← call .expression
      skip (op ",")
      let _ ← call .expressions
      handlerName
      skip (op ":")
      refuseFrom a.span .bareExceptionTypes,
    do
      skip (kw "except")
      let _ ← maybe (op "*")
      let _ ← call .expression
      handlerName
      missingColon,
    do
      skip (kw "except")
      missingColon,
    do
      skip (kw "except")
      skip (op "*")
      choice [skip (kind .newline), skip (op ":")]
      refuseLast .missingExceptionType]

def badExceptIndent : Parser Unit :=
  firstOf [
    do
      let a ← kw "except"
      let _ ← call .expression
      handlerName
      missingBlock "'except' statement" a,
    do
      let a ← kw "except"
      missingBlock "'except' statement" a]

def badExceptStarIndent : Parser Unit :=
  firstOf [
    do
      let a ← kw "except"
      skip (op "*")
      let _ ← call .expression
      handlerName
      missingBlock "'except*' statement" a]

/-! ## Matching -/

def badMatch : Parser Unit :=
  firstOf [
    do
      let _ ← soft "match"
      let _ ← call .subject
      missingColon,
    do
      let a ← soft "match"
      let _ ← call .subject
      missingBlock "'match' statement" a]

def badCase : Parser Unit :=
  let header : Parser Token := do
    let a ← soft "case"
    let _ ← call .patterns
    let _ ← maybe (call .guard)
    return a
  firstOf [
    do
      let _ ← header
      missingColon,
    do
      let a ← header
      missingBlock "'case' statement" a]

def badAsPattern : Parser Unit :=
  firstOf [
    do
      let _ ← call .orPattern
      skip (kw "as")
      let a ← soft "_"
      refuse a.span .wildcardTarget,
    do
      let _ ← call .orPattern
      skip (kw "as")
      notAhead name
      let a ← call .expression
      refuse a.span .invalidPatternTarget]

def badClassPattern : Parser Unit :=
  firstOf [
    do
      let _ ← call .nameOrAttr
      skip (op "(")
      let a ← call .badClassArgumentPattern
      refuseBetween (a.headD default).span (a.getLastD default).span
        .positionalAfterKeywordPattern]

def badClassArgumentPattern : Parser (List Pattern) :=
  firstOf [
    do
      let _ ← maybe (nested do
        let _ ← call .positionalPatterns
        op ",")
      let _ ← call .keywordPatterns
      skip (op ",")
      call .positionalPatterns]

end Playground.Source.Grammar
