import Playground.Source.Grammar.Shape

/-!
# The grammar of targets

What can be assigned to and deleted: names, attributes and items, and sequences of them. The object
of an attribute or item is read as long as it goes on, so that the last step is the target.
-/

namespace Playground.Source.Grammar

open Playground.Source.Parser

variable (call : Reader)

/-- An attribute or item of an object that a later step of the object follows, or does not. -/
def placeOf (usage : Usage) (follow : Parser Unit) : List (Parser Expr) := [
  expr do
    let a ← call .targetPrimary
    let _ ← op "."
    let b ← name
    follow
    return .attribute a b.name usage,
  expr do
    let a ← call .targetPrimary
    let _ ← op "["
    let b ← call .slices
    let _ ← op "]"
    follow
    return .subscript a b usage]

def targetAhead : Parser Unit := do
  let _ ← firstOf [op "(", op "[", op "."]
  return ()

/-- A place that is a target of its own. -/
def finalPlace (usage : Usage) : List (Parser Expr) :=
  placeOf call usage (notAhead (call .targetAhead))

def targetPrimary : Parser Expr :=
  firstOf (placeOf call .load (ahead (call .targetAhead)) ++ [
    expr do
      let a ← call .targetPrimary
      let b ← call .generator
      ahead (call .targetAhead)
      return .call a [b] [],
    expr do
      let a ← call .targetPrimary
      let _ ← op "("
      let b ← maybe (call .arguments)
      let _ ← op ")"
      ahead (call .targetAhead)
      return .call a ((b.map Arguments.args).getD []) ((b.map Arguments.keywords).getD []),
    do
      let a ← call .atom
      ahead (call .targetAhead)
      return a])

/-! ## Targets of assignments -/

def starTargets : Parser Expr :=
  firstOf [
    do
      let a ← call .starTarget
      notAhead (op ",")
      return a,
    expr do
      let a ← call .starTarget
      let b ← many do
        let _ ← op ","
        call .starTarget
      let _ ← maybe (op ",")
      return .tuple (a :: b) .store]

def starTargetsList : Parser (List Expr) := do
  let a ← commaSep (call .starTarget)
  let _ ← maybe (op ",")
  return a

def starTargetsTuple : Parser (List Expr) :=
  firstOf [
    do
      let a ← call .starTarget
      let b ← many1 do
        let _ ← op ","
        call .starTarget
      let _ ← maybe (op ",")
      return a :: b,
    do
      let a ← call .starTarget
      let _ ← op ","
      return [a]]

def starTarget : Parser Expr :=
  firstOf [
    expr do
      let _ ← op "*"
      let a ← nested do
        notAhead (op "*")
        call .starTarget
      return .starred a.stored .store,
    call .starAtomTarget]

def starAtomTarget : Parser Expr :=
  firstOf (finalPlace call .store ++ [call .starAtom])

def starAtom : Parser Expr :=
  firstOf [
    nameExpr .store,
    do
      let _ ← op "("
      let a ← call .starAtomTarget
      let _ ← op ")"
      return a.stored,
    expr do
      let _ ← op "("
      let a ← maybe (call .starTargetsTuple)
      let _ ← op ")"
      return .tuple (a.getD []) .store,
    expr do
      let _ ← op "["
      let a ← maybe (call .starTargetsList)
      let _ ← op "]"
      return .list (a.getD []) .store]

def singleTarget : Parser Expr :=
  firstOf [
    call .singlePlaceTarget,
    nameExpr .store,
    do
      let _ ← op "("
      let a ← call .singleTarget
      let _ ← op ")"
      return a]

def singlePlaceTarget : Parser Expr := firstOf (finalPlace call .store)

/-! ## Targets of deletion -/

def delTargets : Parser (List Expr) := do
  let a ← commaSep (call .delTarget)
  let _ ← maybe (op ",")
  return a

def delTarget : Parser Expr :=
  firstOf (finalPlace call .delete ++ [call .delAtom])

def delAtom : Parser Expr :=
  firstOf [
    nameExpr .delete,
    do
      let _ ← op "("
      let a ← call .delTarget
      let _ ← op ")"
      return a.deleted,
    expr do
      let _ ← op "("
      let a ← maybe (call .delTargets)
      let _ ← op ")"
      return .tuple (a.getD []) .delete,
    expr do
      let _ ← op "["
      let a ← maybe (call .delTargets)
      let _ ← op "]"
      return .list (a.getD []) .delete]

end Playground.Source.Grammar
