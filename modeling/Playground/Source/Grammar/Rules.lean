import Playground.Source.Grammar.Mistake
import Playground.Source.Grammar.Target
import Playground.Source.Parser.Engine

/-!
# The grammar

Every rule with its definition. A grammar needs a way to read the replacement fields of texts, which
is itself a parser of this grammar.
-/

namespace Playground.Source.Grammar

open Playground.Source.Parser

/-- The operators of each level of binary expressions. -/
def sums : List (String × BinaryOp) := [("+", .add), ("-", .sub)]

def terms : List (String × BinaryOp) :=
  [("*", .mul), ("/", .div), ("//", .floorDiv), ("%", .mod), ("@", .matMul)]

def shifts : List (String × BinaryOp) := [("<<", .shiftLeft), (">>", .shiftRight)]

/-- How to read each rule. -/
def rules (readField : FieldReader) : Parser.Grammar := fun call r =>
  match r with
  | .file => file call
  | .field => call .starExpressions
  | .statements => statements call
  | .statement => statement call
  | .simpleStatements => simpleStatements call
  | .simpleStatement => simpleStatement call
  | .compoundStatement => compoundStatement call
  | .assignment => assignment call
  | .annotatedValue => annotatedValue call
  | .augmentedOp => augmentedOp
  | .returnStatement => returnStatement call
  | .raiseStatement => raiseStatement call
  | .globalStatement => globalStatement
  | .nonlocalStatement => nonlocalStatement
  | .delStatement => delStatement call
  | .yieldStatement => yieldStatement call
  | .assertStatement => assertStatement call
  | .importStatement => importStatement call
  | .importName => importName call
  | .importFrom => importFrom call
  | .importFromTargets => importFromTargets call
  | .importFromNames => importFromNames call
  | .importFromName => importFromName
  | .dottedAsNames => dottedAsNames call
  | .dottedAsName => dottedAsName call
  | .dottedName => dottedName call
  | .block => block call
  | .decorators => decorators call
  | .classDef => classDef call
  | .bareClassDef => bareClassDef call
  | .functionDef => functionDef call
  | .bareFunctionDef => bareFunctionDef call
  | .params => params call
  | .parameters => parameters call
  | .slashPlain => slashPlain call
  | .slashDefault => slashDefault call
  | .starParams => starParams call
  | .keywordParams => keywordParams call
  | .paramPlain => paramPlain call
  | .paramStarAnnotated => paramStarAnnotated call
  | .paramDefault => paramDefault call
  | .paramMaybeDefault => paramMaybeDefault call
  | .param => param call
  | .paramStarHint => paramStarHint call
  | .hint => hint call
  | .starHint => starHint call
  | .defaultValue => defaultValue call
  | .ifStatement => ifStatement call
  | .elifStatement => elifStatement call
  | .elseBlock => elseBlock call
  | .whileStatement => whileStatement call
  | .forStatement => forStatement call
  | .withStatement => withStatement call
  | .withItem => withItem call
  | .tryStatement => tryStatement call
  | .exceptBlock => exceptBlock call
  | .exceptStarBlock => exceptStarBlock call
  | .finallyBlock => finallyBlock call
  | .matchStatement => matchStatement call
  | .subject => subject call
  | .caseBlock => caseBlock call
  | .guard => guard call
  | .patterns => patterns call
  | .pattern => pattern call
  | .asPattern => asPattern call
  | .orPattern => orPattern call
  | .closedPattern => closedPattern call
  | .literalPattern => literalPattern call
  | .literalKey => literalKey call
  | .complexNumber => complexNumber call
  | .signedNumber => signedNumber
  | .signedReal => signedReal call
  | .realNumber => realNumber
  | .imaginaryNumber => imaginaryNumber
  | .capturePattern => capturePattern call
  | .captureTarget => captureTarget
  | .wildcardPattern => wildcardPattern
  | .valuePattern => valuePattern call
  | .patternAttr => patternAttr call
  | .nameOrAttr => nameOrAttr call
  | .groupPattern => groupPattern call
  | .sequencePattern => sequencePattern call
  | .openSequencePattern => openSequencePattern call
  | .maybeSequencePattern => maybeSequencePattern call
  | .maybeStarPattern => maybeStarPattern call
  | .starPattern => starPattern call
  | .mappingPattern => mappingPattern call
  | .itemsPattern => itemsPattern call
  | .keyValuePattern => keyValuePattern call
  | .doubleStarPattern => doubleStarPattern call
  | .classPattern => classPattern call
  | .positionalPatterns => positionalPatterns call
  | .keywordPatterns => keywordPatterns call
  | .keywordPattern => keywordPattern call
  | .expressions => expressions call
  | .expression => expression call
  | .yieldExpr => yieldExpr call
  | .starExpressions => starExpressions call
  | .starExpression => starExpression call
  | .starNamedExpressions => starNamedExpressions call
  | .starNamedExpression => starNamedExpression call
  | .assignmentExpression => assignmentExpression call
  | .namedExpression => namedExpression call
  | .disjunction => boolean "or" true (call .conjunction)
  | .conjunction => boolean "and" false (call .inversion)
  | .inversion => inversion call
  | .comparison => comparison call
  | .comparisonPair => comparisonPair call
  | .bitwiseOr => leftBinary (call .bitwiseOr) (call .bitwiseXor) [("|", .bitOr)]
  | .bitwiseXor => leftBinary (call .bitwiseXor) (call .bitwiseAnd) [("^", .bitXor)]
  | .bitwiseAnd => leftBinary (call .bitwiseAnd) (call .shiftExpr) [("&", .bitAnd)]
  | .shiftExpr => leftBinary (call .shiftExpr) (call .sum) shifts
  | .sum => leftBinary (call .sum) (call .term) sums
  | .term => leftBinary (call .term) (call .factor) terms
  | .factor => factor call
  | .power => power call
  | .awaitPrimary => awaitPrimary call
  | .primary => primary call
  | .slices => slices call
  | .slice => slice call
  | .atom => atom call
  | .group => group call
  | .lambda => lambda call
  | .lambdaParams => lambdaParams call
  | .lambdaParameters => lambdaParameters call
  | .lambdaSlashPlain => lambdaSlashPlain call
  | .lambdaSlashDefault => lambdaSlashDefault call
  | .lambdaStarParams => lambdaStarParams call
  | .lambdaKeywordParams => lambdaKeywordParams call
  | .lambdaParamPlain => lambdaParamPlain call
  | .lambdaParamDefault => lambdaParamDefault call
  | .lambdaParamMaybeDefault => lambdaParamMaybeDefault call
  | .lambdaParam => lambdaParam
  | .strings => do joinLiterals readField (← many1 (kind .string))
  | .list => list call
  | .tuple => tuple call
  | .set => set call
  | .dict => dict call
  | .dictItems => dictItems call
  | .dictItem => dictItem call
  | .keyValue => keyValue call
  | .forIfClauses => forIfClauses call
  | .forIfClause => forIfClause call
  | .listComprehension => listComprehension call
  | .setComprehension => setComprehension call
  | .generator => generator call
  | .dictComprehension => dictComprehension call
  | .arguments => arguments call
  | .args => args call
  | .lateArguments => lateArguments call
  | .starredExpression => starredExpression call
  | .lateOrStarred => lateOrStarred call
  | .lateOrDoubleStarred => lateOrDoubleStarred call
  | .starTargets => starTargets call
  | .starTargetsList => starTargetsList call
  | .starTargetsTuple => starTargetsTuple call
  | .starTarget => starTarget call
  | .starAtomTarget => starAtomTarget call
  | .starAtom => starAtom call
  | .singleTarget => singleTarget call
  | .singlePlaceTarget => singlePlaceTarget call
  | .targetPrimary => targetPrimary call
  | .targetAhead => targetAhead
  | .delTargets => delTargets call
  | .delTarget => delTarget call
  | .delAtom => delAtom call
  | .badArguments => badArguments call
  | .badLateArgument => badLateArgument call
  | .plainExpression => plainExpression call
  | .badLegacyCall => badLegacyCall call
  | .badExpression => badExpression call
  | .badNamedExpression => badNamedExpression call
  | .badAssignment => badAssignment call
  | .badAnnotationTarget => badAnnotationTarget call
  | .badDelStatement => badDelStatement call
  | .badBlock => badBlock
  | .badComprehension => badComprehension call
  | .badDictComprehension => badDictComprehension call
  | .badParameters => badParameters call
  | .badParametersHelper => badParametersHelper call
  | .badDefault => badDefault
  | .badStarParams => badStarParams call
  | .badKeywordParams => badKeywordParams call
  | .badLambdaParameters => badLambdaParameters call
  | .badLambdaParametersHelper => badLambdaParametersHelper call
  | .badLambdaStarParams => badLambdaStarParams call
  | .badLambdaKeywordParams => badLambdaKeywordParams call
  | .badWithItem => badWithItem call
  | .badForTarget => badForTarget call
  | .badGroup => badGroup call
  | .badImportTargets => badImportTargets call
  | .badWith => badWith call
  | .badWithIndent => badWithIndent call
  | .badTry => badTry call
  | .badExcept => badExcept call
  | .badFinally => badFinally
  | .badExceptIndent => badExceptIndent call
  | .badExceptStarIndent => badExceptStarIndent call
  | .badMatch => badMatch call
  | .badCase => badCase call
  | .badAsPattern => badAsPattern call
  | .badClassPattern => badClassPattern call
  | .badClassArgumentPattern => badClassArgumentPattern call
  | .badIf => badIf call
  | .badElif => badElif call
  | .badElse => badElse
  | .badWhile => badWhile call
  | .badFor => badFor call
  | .badDef => badDef call
  | .badClass => badClass call
  | .badDictItems => badDictItems call
  | .badKeyValue => badKeyValue call

end Playground.Source.Grammar
