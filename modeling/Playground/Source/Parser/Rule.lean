import Playground.Source.Tree

/-!
# Grammar rules

The names of the rules of the grammar, with the kind of syntax that each of them reads. Rules whose
name starts with `bad` match frequent mistakes: they read nothing of use, and end in a fault that
says what is wrong.
-/

namespace Playground.Source

/-- Parameters from the first star on. -/
structure StarParams where
  variadic : Option Param
  keywordOnly : List (Param × Option Expr)
  variadicKeyword : Option Param
  deriving Inhabited

/-- Positional-only parameters of which the last ones have defaults. -/
structure SlashParams where
  plain : List Param
  withDefault : List (Param × Expr)
  deriving Inhabited

/-- The arguments of a call or the bases of a class. -/
structure Arguments where
  span : Span
  args : List Expr
  keywords : List Keyword
  deriving Inhabited

/-- An argument among the keyword arguments. -/
inductive LateArgument where
  | keyword (k : Keyword)
  | starred (e : Expr)
  deriving Inhabited

/-- The rules of the grammar. -/
inductive Rule where
  -- Modules and statements.
  | file | field | statements | statement | simpleStatements | simpleStatement | compoundStatement
  | assignment | annotatedValue | augmentedOp | returnStatement | raiseStatement | globalStatement
  | nonlocalStatement | delStatement | yieldStatement | assertStatement | importStatement
  | importName | importFrom | importFromTargets | importFromNames | importFromName | dottedAsNames
  | dottedAsName | dottedName | block | decorators | classDef | bareClassDef | functionDef
  | bareFunctionDef
  -- Parameters of functions.
  | params | parameters | slashPlain | slashDefault | starParams | keywordParams | paramPlain
  | paramStarAnnotated | paramDefault | paramMaybeDefault | param | paramStarHint | hint
  | starHint | defaultValue
  -- Compound statements.
  | ifStatement | elifStatement | elseBlock | whileStatement | forStatement | withStatement
  | withItem | tryStatement | exceptBlock | exceptStarBlock | finallyBlock
  -- Patterns.
  | matchStatement | subject | caseBlock | guard | patterns | pattern | asPattern | orPattern
  | closedPattern | literalPattern | literalKey | complexNumber | signedNumber | signedReal
  | realNumber | imaginaryNumber | capturePattern | captureTarget | wildcardPattern | valuePattern
  | patternAttr | nameOrAttr | groupPattern | sequencePattern | openSequencePattern
  | maybeSequencePattern | maybeStarPattern | starPattern | mappingPattern | itemsPattern
  | keyValuePattern | doubleStarPattern | classPattern | positionalPatterns | keywordPatterns
  | keywordPattern
  -- Expressions.
  | expressions | expression | yieldExpr | starExpressions | starExpression | starNamedExpressions
  | starNamedExpression | assignmentExpression | namedExpression | disjunction | conjunction
  | inversion | comparison | comparisonPair | bitwiseOr | bitwiseXor | bitwiseAnd | shiftExpr | sum
  | term | factor | power | awaitPrimary | primary | slices | slice | atom | group | lambda
  | lambdaParams | lambdaParameters | lambdaSlashPlain | lambdaSlashDefault | lambdaStarParams
  | lambdaKeywordParams | lambdaParamPlain | lambdaParamDefault | lambdaParamMaybeDefault
  | lambdaParam | strings | list | tuple | set | dict | dictItems | dictItem | keyValue
  | forIfClauses | forIfClause | listComprehension | setComprehension | generator
  | dictComprehension | arguments | args | lateArguments | starredExpression | lateOrStarred
  | lateOrDoubleStarred
  -- Targets.
  | starTargets | starTargetsList | starTargetsTuple | starTarget | starAtomTarget | starAtom
  | singleTarget | singlePlaceTarget | targetPrimary | targetAhead | delTargets | delTarget
  | delAtom
  -- Mistakes.
  | badArguments | badLateArgument | plainExpression | badLegacyCall | badExpression
  | badNamedExpression | badAssignment | badAnnotationTarget | badDelStatement | badBlock
  | badComprehension | badDictComprehension | badParameters | badParametersHelper | badDefault
  | badStarParams | badKeywordParams | badLambdaParameters | badLambdaParametersHelper
  | badLambdaStarParams | badLambdaKeywordParams | badWithItem | badForTarget | badGroup
  | badImportTargets | badWith | badWithIndent | badTry | badExcept | badFinally | badExceptIndent
  | badExceptStarIndent | badMatch | badCase | badAsPattern | badClassPattern
  | badClassArgumentPattern | badIf | badElif | badElse | badWhile | badFor | badDef | badClass
  | badDictItems | badKeyValue
  deriving DecidableEq, Repr

/-- What a rule reads. -/
abbrev Rule.Result : Rule → Type
  | .file | .statements | .statement | .simpleStatements | .block | .elseBlock | .finallyBlock =>
    List Stmt
  | .simpleStatement | .compoundStatement | .assignment | .returnStatement | .raiseStatement
  | .globalStatement | .nonlocalStatement | .delStatement | .yieldStatement | .assertStatement
  | .importStatement | .importName | .importFrom | .classDef | .bareClassDef | .functionDef
  | .bareFunctionDef | .ifStatement | .elifStatement | .whileStatement | .forStatement
  | .withStatement | .tryStatement | .matchStatement => Stmt
  | .augmentedOp => BinaryOp
  | .importFromTargets | .importFromNames | .dottedAsNames => List Alias
  | .importFromName | .dottedAsName => Alias
  | .dottedName | .captureTarget | .doubleStarPattern => Ident
  | .decorators | .starNamedExpressions | .starTargetsList | .starTargetsTuple | .delTargets =>
    List Expr
  | .params | .parameters | .lambdaParams | .lambdaParameters => Params
  | .slashPlain | .lambdaSlashPlain => List Param
  | .slashDefault | .lambdaSlashDefault => SlashParams
  | .starParams | .lambdaStarParams => StarParams
  | .keywordParams | .paramPlain | .paramStarAnnotated | .param | .paramStarHint
  | .lambdaKeywordParams | .lambdaParamPlain | .lambdaParam => Param
  | .paramDefault | .lambdaParamDefault => Param × Expr
  | .paramMaybeDefault | .lambdaParamMaybeDefault => Param × Option Expr
  | .withItem => WithItem
  | .exceptBlock | .exceptStarBlock => Handler
  | .caseBlock => Case
  | .patterns | .pattern | .asPattern | .orPattern | .closedPattern | .literalPattern
  | .capturePattern | .wildcardPattern | .valuePattern | .groupPattern | .sequencePattern
  | .maybeStarPattern | .starPattern | .mappingPattern | .classPattern => Pattern
  | .openSequencePattern | .maybeSequencePattern | .positionalPatterns
  | .badClassArgumentPattern => List Pattern
  | .itemsPattern => List (Expr × Pattern)
  | .keyValuePattern => Expr × Pattern
  | .keywordPatterns => List (Ident × Pattern)
  | .keywordPattern => Ident × Pattern
  | .comparisonPair => CompareOp × Expr
  | .dictItems => List (Option Expr × Expr)
  | .dictItem => Option Expr × Expr
  | .keyValue => Expr × Expr
  | .forIfClauses => List Clause
  | .forIfClause => Clause
  | .arguments | .args => Arguments
  | .lateArguments => List LateArgument
  | .lateOrStarred | .lateOrDoubleStarred => LateArgument
  | .field | .annotatedValue | .hint | .starHint | .defaultValue | .subject | .guard
  | .literalKey | .complexNumber | .signedNumber | .signedReal | .realNumber | .imaginaryNumber
  | .patternAttr | .nameOrAttr | .expressions | .expression | .yieldExpr | .starExpressions
  | .starExpression | .starNamedExpression | .assignmentExpression | .namedExpression
  | .disjunction | .conjunction | .inversion | .comparison | .bitwiseOr | .bitwiseXor | .bitwiseAnd
  | .shiftExpr | .sum | .term | .factor | .power | .awaitPrimary | .primary | .slices | .slice
  | .atom | .group | .lambda | .strings | .list | .tuple | .set | .dict | .listComprehension
  | .setComprehension | .generator | .dictComprehension | .starredExpression | .starTargets
  | .starTarget | .starAtomTarget | .starAtom | .singleTarget | .singlePlaceTarget
  | .targetPrimary | .delTarget | .delAtom | .plainExpression | .badAnnotationTarget => Expr
  | .targetAhead | .badArguments | .badLateArgument | .badLegacyCall | .badExpression
  | .badNamedExpression | .badAssignment | .badDelStatement | .badBlock | .badComprehension
  | .badDictComprehension | .badParameters | .badParametersHelper | .badDefault | .badStarParams
  | .badKeywordParams | .badLambdaParameters | .badLambdaParametersHelper | .badLambdaStarParams
  | .badLambdaKeywordParams | .badWithItem | .badForTarget | .badGroup | .badImportTargets
  | .badWith | .badWithIndent | .badTry | .badExcept | .badFinally | .badExceptIndent
  | .badExceptStarIndent | .badMatch | .badCase | .badAsPattern | .badClassPattern | .badIf
  | .badElif | .badElse | .badWhile | .badFor | .badDef | .badClass | .badDictItems
  | .badKeyValue => Unit

/-- How the answers of a rule are kept. -/
inductive Retention where
  /-- One answer for each place, whether or not mistakes are looked for. -/
  | shared
  /-- One answer for each place and for each of the two ways of looking at it. -/
  | separate
  /-- The rule begins with itself: its answer is grown from a shorter one. -/
  | growing
  /-- Answers depend on a rule that is being grown. -/
  | none
  deriving DecidableEq

/-- How the answers of each rule are kept. -/
def Rule.retention : Rule → Retention
  | .simpleStatement | .block | .closedPattern | .starPattern | .expression | .starExpression
  | .disjunction | .conjunction | .inversion | .factor | .awaitPrimary | .strings | .arguments
  | .starTarget | .starAtomTarget | .delTarget | .badNamedExpression => .shared
  | .dottedName | .patternAttr | .bitwiseOr | .bitwiseXor | .bitwiseAnd | .shiftExpr | .sum | .term
  | .primary | .targetPrimary => .growing
  | .nameOrAttr => .none
  | _ => .separate

end Playground.Source
