import Playground.Decimal.Binary
import Playground.Source.Check.Expression
import Playground.Source.Literal.Shown

/-!
# Compiling patterns

A pattern that matches everything has to be the last one, wherever patterns are tried in turn. The
names that a pattern binds are different from each other, and the alternatives of a pattern bind the
same ones.
-/

namespace Playground.Source.Check

/-- Whether a pattern matches everything and binds nothing. -/
def isWildcard : Pattern → Bool
  | .bind _ _ none => true
  | _ => false

/-- Binds a name of a pattern, unless it is bound already; `bound` are the names bound before. -/
def capture (bound : List String) (name : Option String) : Check (List String) := do
  match name with
  | none => return bound
  | some name =>
    bind name
    if bound.contains name then refuse (.capturedTwice name)
    return bound ++ [name]

/-- Whether two literals are equal as keys: numbers are compared by their values. -/
def sameKey (a b : Literal) : Bool :=
  match number? a, number? b with
  | some (x, i), some (y, j) => x == y && i == j
  | _, _ =>
    match a, b with
    | .none, .none => true
    | .text s _, .text t _ => s == t
    | .bytes s, .bytes t => s == t
    | _, _ => false
where
  /-- A whole number, or the bits of another double. -/
  real (x : Float) : Int ⊕ UInt64 :=
    match Decimal.whole? x with
    | some n => .inl n
    | none => .inr x.toBits
  /-- The parts of a number. -/
  number? : Literal → Option ((Int ⊕ UInt64) × (Int ⊕ UInt64))
    | .bool b => some (.inl (if b then 1 else 0), .inl 0)
    | .int n => some (.inl n, .inl 0)
    | .float x => some (real x, .inl 0)
    | .complex re im => some (real re, real im)
    | _ => none

/-- Refuses two keywords of one name in the pattern of a class. -/
def checkAttributes : List (String × Pattern) → Check Unit
  | [] => pure ()
  | (name, p) :: rest => do
    moveToSpan p.span
    bind name
    if let some other := rest.find? fun o => o.1 == name then
      moveToSpan other.2.span
      refuse (.repeatedAttribute name)
    checkAttributes rest

/-- Compiles the keys of a mapping pattern, of which `seen` came before. -/
def keys (n : Nat) (seen : List Literal) : List Expr → Check Unit
  | [] => pure ()
  | key :: rest =>
    match key.form with
    | .literal v => do
      if seen.any (sameKey v) then refuse (.repeatedKey (v.shown))
      expr n key
      keys n (v :: seen) rest
    | .attribute .. => do
      expr n key
      keys n seen rest
    | _ => refuse .computedKey

mutual

/-- Compiles a pattern, which may match everything if it is `last`. Answers the names bound so
far. -/
def pattern : Nat → Bool → List String → Pattern → Check (List String)
  | 0, _, _, _ => throw .tooDeep
  | n + 1, last, bound, p => do
    moveToSpan p.span
    match p with
    | .value _ v =>
      match v.form with
      | .literal _ | .attribute .. => do
        expr n v
        return bound
      | _ => refuse .computedPattern
    | .singleton .. => return bound
    | .sequence _ ps => do
      let isStar (p : Pattern) : Bool := (p matches .star ..)
      if ps.countP isStar > 1 then refuse .starredNamesTwice
      let isNothing (p : Pattern) : Bool := isWildcard p || (p matches .star _ none)
      if ps.all isNothing then return bound
      if ps.any (fun p => (p matches .star _ none)) then
        subpatterns n bound (ps.filter fun p => !isNothing p)
      else
        if (ps.findIdx? isStar).any (· > maxBeforeStar) then refuse .starredPatternTooFar
        subpatterns n bound ps
    | .mapping _ ks ps rest => do
      keys n [] ks
      capture (← subpatterns n bound ps) rest
    | .classOf _ c ps names kps => do
      checkAttributes (names.zip kps)
      moveToSpan p.span
      expr n c
      subpatterns n bound ((ps ++ kps).filter fun p => !isWildcard p)
    | .star _ name => capture bound name
    | .bind _ none name =>
      if last then capture bound name
      else
        match name with
        | some name => refuse (.unreachableAfterCapture name)
        | none => refuse .unreachableAfterWildcard
    | .bind _ (some inner) name => do
      capture (← pattern n last bound inner) name
    | .anyOf _ ps =>
      match ps with
      | [] => return bound
      | first :: rest => do
        moveToSpan first.span
        let names ← pattern n (rest.isEmpty && last) [] first
        alternatives n last names rest
        names.foldlM (fun bound name => do
          if bound.contains name then refuse (.capturedTwice name)
          return bound ++ [name]) bound

/-- Compiles patterns for parts of what is matched; each of them may match everything. -/
def subpatterns : Nat → List String → List Pattern → Check (List String)
  | _, bound, [] => return bound
  | 0, _, _ => throw .tooDeep
  | n + 1, bound, p :: rest => do
    let bound ← pattern n true bound p
    subpatterns n bound rest

/-- Compiles alternatives after the first one, which binds `names`. -/
def alternatives : Nat → Bool → List String → List Pattern → Check Unit
  | _, _, _, [] => return ()
  | 0, _, _, _ => throw .tooDeep
  | n + 1, last, names, p :: rest => do
    moveToSpan p.span
    let own ← pattern n (rest.isEmpty && last) [] p
    unless own.length = names.length && names.all own.contains do refuse .differentNames
    alternatives n last names rest

end

end Playground.Source.Check
