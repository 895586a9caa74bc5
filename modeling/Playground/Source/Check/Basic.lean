import Playground.Source.Fold
import Playground.Source.Future
import Playground.Source.Scope.Resolve

/-!
# Compiling

Compiling goes over the tree of a module once more, in the order in which code would be generated,
and finds what is wrong with statements, expressions and patterns where they stand. It warns of what
is certain to fail or to be always true when it runs.

The state keeps the place that code is generated for, because faults are reported there. The code
that leaves a block on the way of a jump accounts for no place.
-/

namespace Playground.Source

/-- A block that a jump has to leave. -/
inductive Block where
  | whileLoop
  | forLoop
  | tryBody
  | handlers
  | starHandlers
  | handlerBody
  /-- A body that is followed by these statements however it is left. -/
  | guarded (final : List Stmt)
  | finalBody
  | withBody
  /-- A value that is kept while something else runs. -/
  | keptValue
  | asyncClause
  deriving Inhabited

/-- The kinds of code units. -/
inductive UnitKind where
  | module
  | classBody
  | function (isAsync : Bool)
  | lambda
  | comprehension
  deriving DecidableEq, Repr, Inhabited

/-- Whether the code of a unit runs as that of a function. -/
def UnitKind.isFunction : UnitKind → Bool
  | .module | .classBody => false
  | .function _ | .lambda | .comprehension => true

/-- A code unit while it is compiled. -/
structure CodeUnit where
  kind : UnitKind
  isCoroutine : Bool
  isGenerator : Bool
  /-- The open blocks, innermost first. -/
  blocks : List Block
  spot : Spot
  deriving Inhabited

/-- The state of compiling. -/
structure CheckState where
  unit : CodeUnit
  warnings : Array SourceWarning

/-- What is known while a module is compiled. -/
structure CheckSetting where
  future : Future
  /-- Whether the module itself may await. -/
  awaits : Bool
  scopes : List ScopeFacts

/-- Compiling. A fault leaves the warnings before it. -/
abbrev Check := ReaderT CheckSetting (ExceptT Stop (StateM CheckState))

namespace Check

/-- The most blocks that may be open in a unit. -/
def maxBlocks : Nat := 20

/-- The name that is a constant wherever it is read, and cannot be bound. -/
def constantName : String := "__debug__"

/-- Refuses the module at the current place. -/
def refuse {α : Type} (m : Misuse) : Check α := do
  throw (m.stop (← get).unit.spot)

/-- Warns at the current place. -/
def warn (message : String) : Check Unit :=
  modify fun s => { s with warnings := s.warnings.push ⟨message, s.unit.spot.line, true⟩ }

/-- Changes the unit that is compiled. -/
def modifyUnit (f : CodeUnit → CodeUnit) : Check Unit :=
  modify fun s => { s with unit := f s.unit }

/-- Moves the current place. -/
def moveTo (spot : Spot) : Check Unit :=
  modifyUnit fun u => { u with spot }

/-- Moves the current place to a span. -/
def moveToSpan (span : Span) : Check Unit :=
  moveTo (.ofSpan span)

/-- Compiles something at a span, and comes back to the current place. -/
def atSpan (span : Span) (body : Check Unit) : Check Unit := do
  let spot := (← get).unit.spot
  moveToSpan span
  body
  moveTo spot

/-- Compiles something inside a block. -/
def inBlock (b : Block) (body : Check Unit) : Check Unit := do
  let blocks := (← get).unit.blocks
  if blocks.length ≥ maxBlocks then refuse .tooManyBlocks
  modifyUnit fun u => { u with blocks := b :: blocks }
  body
  modifyUnit fun u => { u with blocks }

/-- Compiles something with other open blocks. -/
def withBlocks (blocks : List Block) (body : Check Unit) : Check Unit := do
  let before := (← get).unit.blocks
  modifyUnit fun u => { u with blocks }
  body
  modifyUnit fun u => { u with blocks := before }

/-- What is known about the scope of a function, or of a comprehension, at a span. -/
def scopeAt (isComprehension : Bool) (span : Span) : Check ScopeFacts := do
  let found := (← read).scopes.find? fun f =>
    f.kind.isFunction && f.kind.gathering?.isSome == isComprehension && f.span = span
  return found.getD (.ofKind .function span)

/-- Compiles something as a unit of its own. -/
def inUnit (kind : UnitKind) (facts : ScopeFacts) (span : Span) (body : Check Unit) :
    Check Unit := do
  let outer := (← get).unit
  modifyUnit fun _ => ⟨kind, facts.isCoroutine, facts.isGenerator, [], .ofSpan span⟩
  body
  modifyUnit fun _ => outer

/-- Binds a name. -/
def bind (name : String) : Check Unit := do
  if name == constantName then refuse (.assignedConstant name)

/-- Deletes a name. -/
def unbind (name : String) : Check Unit := do
  if name == constantName then refuse (.deletedConstant name)

/-- Whether the module itself may await what is compiled now. -/
def awaitsAtTop : Check Bool := do
  return (← read).awaits && (← get).unit.kind = .module

/-- Refuses an asynchronous statement where nothing can be awaited. -/
def needsAsync (what : String) : Check Unit := do
  unless ← awaitsAtTop do
    unless (← get).unit.kind = .function true do refuse (.asyncOutside what)

/-- The name of the type of a literal. -/
def literalType : Literal → String
  | .none => "NoneType"
  | .bool _ => "bool"
  | .ellipsis => "ellipsis"
  | .int _ => "int"
  | .float _ => "float"
  | .complex .. => "complex"
  | .text .. => "str"
  | .bytes _ => "bytes"
  | .tuple _ => "tuple"
  | .frozenset _ => "frozenset"

/-- The name of the type that an expression certainly has. -/
def typeName? (e : Expr) : Option String :=
  match e.form with
  | .tuple .. => some "tuple"
  | .list .. => some "list"
  | .comprehension kind .. =>
    match kind with
    | .list => some "list"
    | .set => some "set"
    | .generator => some "generator"
  | .dict _ | .dictComprehension .. => some "dict"
  | .set _ => some "set"
  | .lambda .. => some "function"
  | .joined _ | .formatted .. => some "str"
  | .literal v => some (literalType v)
  | _ => none

/-- Warns of a call of what cannot be called. -/
def checkCalled (e : Expr) : Check Unit :=
  match e.form with
  | .lambda .. => pure ()
  | _ =>
    match typeName? e with
    | some type => warn s!"'{type}' object is not callable; perhaps you missed a comma?"
    | none => pure ()

/-- Whether an expression certainly has no items. -/
def hasNoItems (e : Expr) : Bool :=
  match e.form with
  | .set _ | .lambda .. => true
  | .comprehension kind .. => kind ≠ .list
  | .literal v =>
    match v with
    | .none | .bool _ | .ellipsis | .int _ | .float _ | .complex .. | .frozenset _ => true
    | .text .. | .bytes _ | .tuple _ => false
  | _ => false

/-- Whether the items of an expression are certainly numbered. -/
def hasNumberedItems (e : Expr) : Bool :=
  match e.form with
  | .tuple .. | .list .. | .joined _ | .formatted .. => true
  | .comprehension kind .. => kind = .list
  | .literal v => (v matches .text .. | .bytes _ | .tuple _)
  | _ => false

/-- Warns of items of what has none, and of numbered items that are asked for by something else. -/
def checkItem (e index : Expr) : Check Unit := do
  let own := (typeName? e).getD ""
  if hasNoItems e then
    warn s!"'{own}' object is not subscriptable; perhaps you missed a comma?"
  match typeName? index with
  | none | some "int" | some "bool" => pure ()
  | some type =>
    if hasNumberedItems e then
      warn s!"{own} indices must be integers or slices, not {type}; perhaps you missed a comma?"

/-- Whether an expression has an identity to compare: literals have none, apart from those of which
there is only one. -/
def hasIdentity (e : Expr) : Bool :=
  match e.form with
  | .literal v => (v matches .none | .bool _ | .ellipsis)
  | _ => true

/-- Warns of the first comparison of an identity that there is none of. -/
def checkIdentity (left : Expr) : List CompareOp → List Expr → Check Unit
  | op :: ops, right :: rest =>
    let certain := hasIdentity left && hasIdentity right
    match op with
    | .isSame =>
      if certain then checkIdentity right ops rest
      else warn "\"is\" with a literal. Did you mean \"==\"?"
    | .isNotSame =>
      if certain then checkIdentity right ops rest
      else warn "\"is not\" with a literal. Did you mean \"!=\"?"
    | _ => checkIdentity right ops rest
  | _, _ => pure ()

/-- Whether an expression is a tuple with elements. -/
def isFilledTuple (e : Expr) : Bool :=
  match e.form with
  | .tuple es _ => !es.isEmpty
  | .literal (.tuple vs) => !vs.isEmpty
  | _ => false

/-- Refuses two keyword arguments of one name. -/
def checkKeywords : List Keyword → Check Unit
  | [] => pure ()
  | k :: rest => do
    if let some name := k.name then
      bind name
      if let some other := rest.find? fun o => o.name == some name then
        moveToSpan other.span
        refuse (.repeatedKeyword name)
    checkKeywords rest

/-- Refuses parameters that cannot be bound. -/
def checkParameters (ps : Params) : Check Unit := do
  let one (p : Param) : Check Unit := bind p.name
  ps.positionalOnly.forM one
  ps.positional.forM one
  ps.variadic.forM one
  ps.keywordOnly.forM one
  ps.variadicKeyword.forM one

/-- Whether an expression is starred. -/
def isStarred (e : Expr) : Bool :=
  e.form matches .starred ..

/-- What is starred, or the expression itself. -/
def unstarred (e : Expr) : Expr :=
  match e.form with
  | .starred v _ => v
  | _ => e

/-- The most targets before one that is starred. -/
def maxBeforeStar : Nat := 255

/-- Refuses targets of which two are starred, or one too far from the start. -/
def checkStarred (targets : List Expr) : Check Unit := do
  match targets.findIdx? isStarred with
  | none => pure ()
  | some i =>
    if i > maxBeforeStar then refuse .starredTooFar
    if (targets.countP isStarred) > 1 then refuse .starredTwice

end Check

end Playground.Source
