import Playground.Source.Check.Pattern

/-!
# Compiling statements

A jump leaves the blocks between it and where it goes, innermost first, and what has to run on the
way is compiled there once more. The statements after a guarded body are compiled for both ways of
leaving it.

Each function is given how deeply it may still be nested, with what is compiled on the way of jumps.
-/

namespace Playground.Source.Check

/-- Whether a block is a loop. -/
def isLoop : Block → Bool
  | .whileLoop | .forLoop => true
  | _ => false

/-- Compiles the annotation of a parameter, if annotations are evaluated. -/
def hint (n : Nat) (e : Expr) : Check Unit := do
  unless (← read).future.annotations do expr n (unstarred e)

/-- Compiles the annotations of a function. -/
def annotations (n : Nat) (ps : Params) (returns : Option Expr) : Check Unit := do
  let one (p : Param) : Check Unit := p.hint.forM (hint n)
  ps.positional.forM one
  ps.positionalOnly.forM one
  ps.variadic.forM one
  ps.keywordOnly.forM one
  ps.variadicKeyword.forM one
  returns.forM (hint n)

/-- Compiles the index of a target that is annotated and not assigned. -/
def annotatedIndex : Nat → Expr → Check Unit
  | 0, _ => throw .tooDeep
  | n + 1, e =>
    match e.form with
    | .slice l u s => do
      l.forM (expr n)
      u.forM (expr n)
      s.forM (expr n)
    | .tuple es _ => es.forM (annotatedIndex n)
    | _ => expr n e

/-- Compiles an annotated target. -/
def annotatedTarget (n : Nat) (target hint : Expr) (value : Option Expr) (simple : Bool) :
    Check Unit := do
  if let some v := value then
    expr n v
    expr n target
  let kind := (← get).unit.kind
  let evaluates := (kind = .module || kind = .classBody) && !(← read).future.annotations
  match target.form with
  | .name id _ =>
    bind id
    if simple && evaluates then expr n hint
  | .attribute v name _ =>
    bind name
    if value.isNone then expr n v
  | .subscript v i _ =>
    if value.isNone then
      expr n v
      annotatedIndex n i
  | _ => pure ()
  if !simple && evaluates then expr n hint

/-- Compiles an augmented assignment. -/
def augmented (n : Nat) (target value : Expr) : Check Unit := do
  match target.form with
  | .attribute v _ _ => expr n v
  | .subscript v i _ => do
    expr n v
    expr n i
  | _ => pure ()
  expr n value
  match target.form with
  | .name id _ => do
    moveToSpan target.span
    bind id
  | _ => pure ()

/-- Binds what an import brings. -/
def importName (isFrom : Bool) (a : Alias) : Check Unit :=
  match a.asName with
  | some name => bind name
  | none => if isFrom then bind a.name else bind (String.ofList (a.name.toList.takeWhile (· ≠ '.')))

/-- The last case of a match that has others before it, if it matches everything. -/
def defaultCase? (cases : List Case) : Option Case :=
  match cases with
  | [] | [_] => none
  | _ =>
    match cases.getLast? with
    | some (.mk p g b) => if isWildcard p then some (.mk p g b) else none
    | none => none

mutual

/-- Compiles statements in order. -/
def stmts : Nat → List Stmt → Check Unit
  | _, [] => pure ()
  | 0, _ => throw .tooDeep
  | n + 1, ss => ss.forM (stmt n)

/-- Leaves blocks, innermost first: all of them, or those inside the innermost loop, which is the
answer then. `keeps` tells that there is a value that has to be kept. -/
def leave : Nat → Bool → Bool → List Block → Check (Option Block)
  | _, _, _, [] => return none
  | 0, _, _, _ => throw .tooDeep
  | n + 1, toLoop, keeps, b :: outer => do
    if (b matches .starHandlers) then refuse .leavesStarHandler
    if toLoop && isLoop b then return some b
    match b with
    | .guarded final =>
      withBlocks outer do
        if keeps then inBlock .keptValue (stmts n final) else stmts n final
      moveTo .none
    | .withBody => moveTo .none
    | _ => pure ()
    leave n toLoop keeps outer

/-- Compiles the handlers of a try statement. -/
def handlers : Nat → List Handler → Check Unit
  | _, [] => pure ()
  | 0, _ => throw .tooDeep
  | n + 1, .mk span type name body :: rest => do
    moveToSpan span
    if type.isNone && !rest.isEmpty then refuse .defaultHandlerNotLast
    type.forM (expr n)
    name.forM bind
    inBlock .handlerBody (stmts n body)
    handlers n rest

/-- Compiles a try statement without what follows it in any case. -/
def guardedBody : Nat → Bool → List Stmt → List Handler → List Stmt → Check Unit
  | 0, _, _, _, _ => throw .tooDeep
  | n + 1, isStar, body, hs, orElse => do
    if hs.isEmpty then stmts n body
    else
      inBlock .tryBody (stmts n body)
      unless isStar do stmts n orElse
      moveTo .none
      inBlock (if isStar then .starHandlers else .handlers) (handlers n hs)
      moveTo .none
      if isStar then stmts n orElse

/-- Compiles a with statement from one of its items on. -/
def withItems : Nat → Span → List WithItem → List Stmt → Check Unit
  | 0, _, _, _ => throw .tooDeep
  | n + 1, _, [], body => stmts n body
  | n + 1, span, i :: rest, body => do
    expr n i.context
    inBlock .withBody do
      i.target.forM (expr n)
      withItems n span rest body
    moveToSpan span

/-- Compiles the cases of a match statement, apart from the default case if it has one. -/
def cases : Nat → Bool → List Case → Check Unit
  | _, _, [] => pure ()
  | 0, _, _ => throw .tooDeep
  | n + 1, hasDefault, .mk p guard body :: rest => do
    moveToSpan p.span
    let last := guard.isSome || (rest.isEmpty && !hasDefault)
    let names ← pattern n last [] p
    names.forM bind
    guard.forM (expr n)
    stmts n body
    moveToSpan p.span
    cases n hasDefault rest

/-- Compiles a statement. -/
def stmt : Nat → Stmt → Check Unit
  | 0, _ => throw .tooDeep
  | n + 1, .mk span form => do
    moveToSpan span
    let all (es : List Expr) : Check Unit := es.forM (expr n)
    let one? (e : Option Expr) : Check Unit := e.forM (expr n)
    match form with
    | .functionDef isAsync name ps body decorators returns => do
      checkParameters ps
      all decorators
      defaults n ps
      annotations n ps returns
      inUnit (.function isAsync) (← scopeAt false span) span (stmts n body)
      bind name
    | .classDef name bases keywords body decorators => do
      all decorators
      inUnit .classBody (.ofKind .classBody span) span (stmts n body)
      checkKeywords keywords
      arguments n bases keywords
      bind name
    | .returnStmt value => do
      let unit := (← get).unit
      unless unit.kind.isFunction do refuse .returnOutside
      if value.isSome && unit.isCoroutine && unit.isGenerator then refuse .returnsValue
      let isLiteral := value.all fun e => (e.form matches .literal _)
      if isLiteral then value.forM fun e => moveToSpan e.span else one? value
      unless value.any fun e => e.span.line = span.line do moveToSpan span
      let _ ← leave n false (!isLiteral) unit.blocks
    | .deleteStmt ts => all ts
    | .assign ts v => do
      expr n v
      all ts
    | .augAssign t _ v => augmented n t v
    | .annAssign t a v simple => annotatedTarget n t a v simple
    | .forLoop isAsync target source body orElse => do
      if isAsync then
        needsAsync "for"
        expr n source
        inBlock .forLoop do
          expr n target
          stmts n body
      else
        inBlock .forLoop do
          expr n source
          expr n target
          stmts n body
      stmts n orElse
    | .whileLoop test body orElse => do
      inBlock .whileLoop do
        expr n test
        stmts n body
        moveToSpan span
        expr n test
      stmts n orElse
    | .ifStmt test body orElse => do
      expr n test
      stmts n body
      stmts n orElse
    | .withStmt isAsync items body => do
      if isAsync then needsAsync "with"
      withItems n span items body
    | .matchStmt subject cs => do
      expr n subject
      match defaultCase? cs with
      | none => cases n false cs
      | some (.mk p guard body) => do
        cases n true cs.dropLast
        moveToSpan p.span
        one? guard
        stmts n body
    | .raiseStmt e cause => do
      one? e
      one? cause
    | .tryStmt isStar body hs orElse final => do
      if final.isEmpty then guardedBody n isStar body hs orElse
      else
        inBlock (.guarded final) (guardedBody n isStar body hs orElse)
        stmts n final
        moveTo .none
        inBlock .finalBody (stmts n final)
    | .assertStmt test message => do
      if isFilledTuple test then warn "assertion is always true, perhaps remove parentheses?"
      expr n test
      one? message
    | .importNames names => names.forM (importName false)
    | .importFrom module names _ => do
      if module == some Future.moduleName && span.line > (← read).future.line then
        refuse .lateFuture
      unless names.any fun a => a.name == "*" do names.forM (importName true)
    | .globalNames _ | .nonlocalNames _ | .pass => pure ()
    | .expr v => if (v.form matches .literal _) then pure () else expr n v
    | .breakStmt => do
      match ← leave n true false (← get).unit.blocks with
      | none => refuse .breakOutside
      | some _ => pure ()
    | .continueStmt => do
      match ← leave n true false (← get).unit.blocks with
      | none => refuse .continueOutside
      | some _ => pure ()

end

/-- How deeply compiling statements may be nested: as deeply as the tree, in each of the blocks that
a jump can leave. -/
def maxDepth : Nat := (maxBlocks + 2) * 4 * maxNesting

/-- Compiles a module. The place at the start is that of its first statement. -/
def module (setting : CheckSetting) (m : Module) : Except Stop Unit × Array SourceWarning :=
  let spot := (m.head?.map fun s => Spot.ofSpan s.span).getD .none
  let (result, s) := ((stmts maxDepth m).run setting).run
    ⟨⟨.module, false, false, [], spot⟩, #[]⟩
  (result, s.warnings)

end Playground.Source.Check
