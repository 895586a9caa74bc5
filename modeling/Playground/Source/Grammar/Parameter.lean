import Playground.Source.Grammar.Shape

/-!
# The grammar of parameters

Parameters of functions and of lambda functions obey the same order: those given by position only,
up to a slash, those without and then those with a default, and those from the first star on. They
differ in what ends a parameter, and in that only functions have annotations.
-/

namespace Playground.Source.Grammar

open Playground.Source.Parser

variable (call : Reader)

/-! ## Assembling parameters -/

/-- A list of parameters from its parts. -/
def assemble (onlyPlain : List Param) (slash : Option SlashParams) (plain : List Param)
    (withDefault : List (Param × Expr)) (star : Option StarParams) : Params :=
  let slash := slash.getD ⟨onlyPlain, []⟩
  let star := star.getD ⟨none, [], none⟩
  .mk (slash.plain ++ slash.withDefault.map Prod.fst) (plain ++ withDefault.map Prod.fst)
    star.variadic (star.keywordOnly.map Prod.fst) (star.keywordOnly.map Prod.snd)
    star.variadicKeyword (slash.withDefault.map Prod.snd ++ withDefault.map Prod.snd)

/-- The rules for one kind of parameter list. -/
structure ParamRules where
  slashPlain : Parser (List Param)
  slashDefault : Parser SlashParams
  plain : Parser Param
  withDefault : Parser (Param × Expr)
  maybeDefault : Parser (Param × Option Expr)
  star : Parser StarParams
  keywords : Parser Param
  /-- What follows the last parameter. -/
  closing : String

/-- All the parameters of a list. -/
def paramList (r : ParamRules) : Parser Params :=
  firstOf [
    do
      let a ← r.slashPlain
      let b ← many r.plain
      let c ← many r.withDefault
      let d ← maybe r.star
      return assemble a none b c d,
    do
      let a ← r.slashDefault
      let b ← many r.withDefault
      let c ← maybe r.star
      return assemble [] (some a) [] b c,
    do
      let a ← many1 r.plain
      let b ← many r.withDefault
      let c ← maybe r.star
      return assemble [] none a b c,
    do
      let a ← many1 r.withDefault
      let b ← maybe r.star
      return assemble [] none [] a b,
    do
      let a ← r.star
      return assemble [] none [] [] (some a)]

/-- A comma, or what follows the last parameter. -/
def separated {α : Type} (closing : String) (p : Parser α) : Parser α :=
  firstOf [
    do
      let a ← p
      let _ ← op ","
      return a,
    do
      let a ← p
      ahead (op closing)
      return a]

/-- Positional-only parameters without defaults, and their slash. -/
def slashPlainOf (r : ParamRules) : Parser (List Param) :=
  separated r.closing do
    let a ← many1 r.plain
    let _ ← op "/"
    return a

/-- Positional-only parameters with defaults among them, and their slash. -/
def slashDefaultOf (r : ParamRules) : Parser SlashParams :=
  separated r.closing do
    let a ← many r.plain
    let b ← many1 r.withDefault
    let _ ← op "/"
    return ⟨a, b⟩

/-- A star with a parameter of its own, and the parameters after it. -/
def starWith (r : ParamRules) (own : Parser Param) : Parser StarParams := do
  let _ ← op "*"
  let a ← own
  let b ← many r.maybeDefault
  let c ← maybe r.keywords
  return ⟨some a, b, c⟩

/-- A star alone, and the parameters after it. -/
def starAlone (r : ParamRules) : Parser StarParams := do
  let _ ← op "*"
  let _ ← op ","
  let b ← many1 r.maybeDefault
  let c ← maybe r.keywords
  return ⟨none, b, c⟩

/-- Only the parameter that takes the remaining keyword arguments. -/
def keywordsAlone (r : ParamRules) : Parser StarParams := do
  return ⟨none, [], some (← r.keywords)⟩

/-! ## Parameters of functions -/

/-- The rules for parameters of functions. -/
def functionParams : ParamRules where
  slashPlain := call .slashPlain
  slashDefault := call .slashDefault
  plain := call .paramPlain
  withDefault := call .paramDefault
  maybeDefault := call .paramMaybeDefault
  star := call .starParams
  keywords := call .keywordParams
  closing := ")"

def params : Parser Params :=
  firstOf [mistake (call .badParameters), call .parameters]

def parameters : Parser Params := paramList (functionParams call)

def slashPlain : Parser (List Param) := slashPlainOf (functionParams call)

def slashDefault : Parser SlashParams := slashDefaultOf (functionParams call)

def starParams : Parser StarParams :=
  firstOf [
    mistake (call .badStarParams),
    starWith (functionParams call) (call .paramPlain),
    starWith (functionParams call) (call .paramStarAnnotated),
    starAlone (functionParams call),
    keywordsAlone (functionParams call)]

def keywordParams : Parser Param :=
  firstOf [
    mistake (call .badKeywordParams),
    do
      let _ ← op "**"
      call .paramPlain]

def paramPlain : Parser Param := separated ")" (call .param)

def paramStarAnnotated : Parser Param := separated ")" (call .paramStarHint)

/-- A parameter with its default. -/
def withDefault (p : Parser Param) : Parser (Param × Expr) := do
  let a ← p
  return (a, ← call .defaultValue)

/-- A parameter with its default, if it has one. -/
def withMaybeDefault (p : Parser Param) : Parser (Param × Option Expr) := do
  let a ← p
  return (a, ← maybe (call .defaultValue))

def paramDefault : Parser (Param × Expr) := separated ")" (withDefault call (call .param))

def paramMaybeDefault : Parser (Param × Option Expr) :=
  separated ")" (withMaybeDefault call (call .param))

def param : Parser Param :=
  spanned
    (do
      let a ← name
      return (a.name, ← maybe (call .hint)))
    fun span (n, a) => .mk span n a

def paramStarHint : Parser Param :=
  spanned
    (do
      let a ← name
      return (a.name, ← call .starHint))
    fun span (n, a) => .mk span n (some a)

def hint : Parser Expr := do
  let _ ← op ":"
  call .expression

def starHint : Parser Expr := do
  let _ ← op ":"
  call .starExpression

def defaultValue : Parser Expr :=
  firstOf [
    do
      let _ ← op "="
      call .expression,
    mistake (call .badDefault)]

/-! ## Parameters of lambda functions -/

/-- The rules for parameters of lambda functions. -/
def lambdaRules : ParamRules where
  slashPlain := call .lambdaSlashPlain
  slashDefault := call .lambdaSlashDefault
  plain := call .lambdaParamPlain
  withDefault := call .lambdaParamDefault
  maybeDefault := call .lambdaParamMaybeDefault
  star := call .lambdaStarParams
  keywords := call .lambdaKeywordParams
  closing := ":"

def lambdaParams : Parser Params :=
  firstOf [mistake (call .badLambdaParameters), call .lambdaParameters]

def lambdaParameters : Parser Params := paramList (lambdaRules call)

def lambdaSlashPlain : Parser (List Param) := slashPlainOf (lambdaRules call)

def lambdaSlashDefault : Parser SlashParams := slashDefaultOf (lambdaRules call)

def lambdaStarParams : Parser StarParams :=
  firstOf [
    mistake (call .badLambdaStarParams),
    starWith (lambdaRules call) (call .lambdaParamPlain),
    starAlone (lambdaRules call),
    keywordsAlone (lambdaRules call)]

def lambdaKeywordParams : Parser Param :=
  firstOf [
    mistake (call .badLambdaKeywordParams),
    do
      let _ ← op "**"
      call .lambdaParamPlain]

def lambdaParamPlain : Parser Param := separated ":" (call .lambdaParam)

def lambdaParamDefault : Parser (Param × Expr) :=
  separated ":" (withDefault call (call .lambdaParam))

def lambdaParamMaybeDefault : Parser (Param × Option Expr) :=
  separated ":" (withMaybeDefault call (call .lambdaParam))

def lambdaParam : Parser Param :=
  spanned name fun span n => .mk span n.name none

end Playground.Source.Grammar
