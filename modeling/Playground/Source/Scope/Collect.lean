import Playground.Source.Scope.Basic

/-!
# Collecting scopes

One walk over a module finds its scopes and what each name is in them, and refuses what cannot be
right whatever the scopes around it are: a parameter twice, a declaration after a use, assignment
expressions where a comprehension has no room for them.

Each function is given how deeply the tree may still be nested.
-/

namespace Playground.Source

/-- A scope that is being read. -/
structure OpenScope where
  facts : ScopeFacts
  /-- The scopes inside it that have been read, the last one first. -/
  inner : List Scope
  /-- Whether a target of a comprehension is being read. -/
  inTarget : Bool
  /-- How many sources of comprehensions are being read. -/
  sources : Nat
  deriving Inhabited

/-- The scopes that are being read. -/
structure ScopeStack where
  current : OpenScope
  /-- The scopes around the current one, innermost first. -/
  around : List OpenScope
  /-- The class that private names belong to. -/
  owner : Option String
  /-- Whether annotations are left unevaluated. -/
  delayed : Bool

/-- Reading scopes. -/
abbrev Collect := StateT ScopeStack (Except Stop)

namespace Collect

/-- Refuses what stands at a place. -/
def refuse {α : Type} (m : Misuse) (span : Span) : Collect α :=
  throw (m.stop (.ofSpan span))

/-- Changes what is known about the current scope. -/
def modifyFacts (f : ScopeFacts → ScopeFacts) : Collect Unit :=
  modify fun s => { s with current := { s.current with facts := f s.current.facts } }

/-- Reads something in a scope of its own. The scope of an annotation is forgotten afterwards. -/
def inScope (kind : ScopeKind) (span : Span) (body : Collect Unit) : Collect Unit := do
  let s ← get
  set { s with
    current := ⟨.ofKind kind span, [], false, s.current.sources⟩
    around := s.current :: s.around }
  body
  let s ← get
  let scope := Scope.mk s.current.facts s.current.inner.reverse
  match s.around with
  | [] => pure ()
  | outer :: around =>
    let inner := if kind = .hint then outer.inner else scope :: outer.inner
    set { s with current := { outer with inner }, around }

/-- Gives a name a role in a scope. -/
def OpenScope.define (owner : Option String) (name : String) (role : NameRole) (span : Span)
    (s : OpenScope) : Except Stop OpenScope := do
  let key := privateName owner name
  let roles := s.facts.roles key
  if role = .parameter && roles.contains .parameter then
    throw ((Misuse.repeatedParameter name).stop (.ofSpan span))
  let facts := s.facts.addRole key role
  if s.inTarget then
    let roles := facts.roles key
    if roles.contains .declaredGlobal || roles.contains .declaredNonlocal then
      throw ((Misuse.iteratedNamed name).stop (.ofSpan span))
    return { s with facts := facts.addRole key .iterated }
  return { s with facts }

/-- Gives a name a role in the module. -/
def declareInModule (key : String) (s : ScopeStack) : ScopeStack :=
  let declare (o : OpenScope) : OpenScope :=
    { o with facts := o.facts.addRole key .declaredGlobal }
  match s.around.getLast? with
  | none => { s with current := declare s.current }
  | some m => { s with around := s.around.dropLast ++ [declare m] }

/-- Gives a name a role in the current scope. -/
def define (name : String) (role : NameRole) (span : Span) : Collect Unit := do
  let s ← get
  let current ← OpenScope.define s.owner name role span s.current
  let s := { s with current }
  set (if role = .declaredGlobal then declareInModule (privateName s.owner name) s else s)

/-- The roles of a name in the current scope. -/
def rolesOf (name : String) : Collect (List NameRole) := do
  let s ← get
  return s.current.facts.roles (privateName s.owner name)

/-- Remembers where a name is declared to belong to another scope. -/
def declared (name : String) (span : Span) : Collect Unit := do
  let key := privateName (← get).owner name
  modifyFacts fun f => { f with declarations := f.declarations ++ [(key, span)] }

/-- Refuses what cannot be part of an annotation that is not evaluated. -/
def outsideHint (what : String) (span : Span) : Collect Unit := do
  if (← get).current.facts.kind = .hint then refuse (.inHint what) span

/-- Finds the scope that an assignment expression inside a comprehension binds its target in, from
the current scope outwards; `passed` are the scopes on the way, the last one first. -/
def bindNamed (name : String) (span : Span) (passed : List OpenScope) :
    List OpenScope → Collect Unit
  | [] => pure ()
  | scope :: around => do
    let roles := scope.facts.roles name
    let owner := (← get).owner
    let put (scope : OpenScope) : Collect Unit := do
      match passed.reverse ++ scope :: around with
      | [] => pure ()
      | current :: around => modify fun s => { s with current, around }
    match scope.facts.kind with
    | .comprehension _ =>
      if roles.contains .iterated && (roles.contains .assigned || roles.contains .declaredGlobal) then
        refuse (.namedIteration name) span
      bindNamed name span (scope :: passed) around
    | .hint => bindNamed name span (scope :: passed) around
    | .function =>
      put (← OpenScope.define owner name .assigned span scope)
      define name (if roles.contains .declaredGlobal then .declaredGlobal else .declaredNonlocal)
        span
      declared name span
    | .module =>
      define name .declaredGlobal span
      declared name span
    | .classBody => refuse .namedInClassComprehension span

/-- A declaration that names belong to another scope. -/
def declare (what : Declaration) (span : Span) (name : String) : Collect Unit := do
  let roles ← rolesOf name
  if roles.contains .parameter then refuse (.declaredParameter name what) span
  if roles.contains .used then refuse (.usedBefore name what) span
  if roles.contains .annotated then refuse (.annotated name what) span
  if roles.contains .assigned then refuse (.assignedBefore name what) span
  define name (match what with
    | .globalNames => .declaredGlobal
    | .nonlocalNames => .declaredNonlocal) span
  declared name span

/-- A yield in the current scope. -/
def yields (span : Span) : Collect Unit := do
  modifyFacts fun f => { f with isGenerator := true }
  if let some what := (← get).current.facts.kind.gathering? then
    refuse (.yieldInComprehension what) span

/-- Reads the source of a comprehension. -/
def inSource (body : Collect Unit) : Collect Unit := do
  modify fun s => { s with current := { s.current with sources := s.current.sources + 1 } }
  body
  modify fun s => { s with current := { s.current with sources := s.current.sources - 1 } }

/-- Reads the target of a comprehension. -/
def inTarget (body : Collect Unit) : Collect Unit := do
  modify fun s => { s with current := { s.current with inTarget := true } }
  body
  modify fun s => { s with current := { s.current with inTarget := false } }

/-- Notes that the current scope awaits something. -/
def awaits : Collect Unit :=
  modifyFacts fun f => { f with isCoroutine := true }

/-- The parameters of a function. -/
def parameters (ps : Params) : Collect Unit := do
  let one (p : Param) : Collect Unit := define p.name .parameter p.span
  ps.positionalOnly.forM one
  ps.positional.forM one
  ps.keywordOnly.forM one
  ps.variadic.forM one
  ps.variadicKeyword.forM one

/-- What an import binds: a name with dots is bound by its first part. -/
def importName (a : Alias) : Collect Unit := do
  let name := a.asName.getD a.name
  if name == "*" then
    if (← get).current.facts.kind ≠ .module then refuse .importAllInside a.span
  else define (String.ofList (name.toList.takeWhile (· ≠ '.'))) .imported a.span

mutual

/-- Reads an expression. -/
def expr : Nat → Expr → Collect Unit
  | 0, _ => throw .tooDeep
  | n + 1, .mk span form => do
    let all (es : List Expr) : Collect Unit := es.forM (expr n)
    let one? (e : Option Expr) : Collect Unit := e.forM (expr n)
    match form with
    | .named target value => do
      outsideHint "named expression" span
      let s ← get
      if s.current.sources > 0 then refuse .namedInSource span
      if s.current.facts.kind.gathering?.isSome then
        match target.form with
        | .name id _ => bindNamed id target.span [] (s.current :: s.around)
        | _ => pure ()
      expr n value
      expr n target
    | .boolean _ es => all es
    | .binary a _ b => do expr n a; expr n b
    | .unary _ a => expr n a
    | .lambda ps body => do
      all ps.defaults
      ps.keywordDefaults.forM one?
      inScope .function span do
        parameters ps
        expr n body
    | .conditional t b e => do expr n t; expr n b; expr n e
    | .dict items => do
      items.forM fun i => one? i.1
      items.forM fun i => expr n i.2
    | .set es => all es
    | .comprehension kind e clauses =>
      let what : Gathering :=
        match kind with | .list => .list | .set => .set | .generator => .generator
      comprehension n what span clauses (expr n e)
    | .dictComprehension k v clauses =>
      comprehension n .dict span clauses (do expr n v; expr n k)
    | .await v => do
      outsideHint "await expression" span
      expr n v
      awaits
    | .yield v => do
      outsideHint "yield expression" span
      one? v
      yields span
    | .yieldFrom v => do
      outsideHint "yield expression" span
      expr n v
      yields span
    | .compare a _ bs => do expr n a; all bs
    | .call f args keywords => do
      expr n f
      all args
      keywords.forM fun k => expr n k.value
    | .formatted v _ f => do expr n v; one? f
    | .joined ps => all ps
    | .literal _ => pure ()
    | .attribute v _ _ => expr n v
    | .subscript v i _ => do expr n v; expr n i
    | .starred v _ => expr n v
    | .name id usage => do
      define id (if usage = .load then .used else .assigned) span
      if usage = .load && id == "super" && (← get).current.facts.kind.isFunction then
        define "__class__" .used span
    | .list es _ => all es
    | .tuple es _ => all es
    | .slice l u s => do one? l; one? u; one? s

/-- Reads a comprehension: its first source belongs to the scope around it. -/
def comprehension : Nat → Gathering → Span → List Clause → Collect Unit → Collect Unit
  | 0, _, _, _, _ => throw .tooDeep
  | _, _, _, [], _ => pure ()
  | n + 1, what, span, .mk target source conditions isAsync :: rest, element => do
    inSource (expr n source)
    inScope (.comprehension what) span do
      if isAsync then awaits
      inTarget (expr n target)
      conditions.forM (expr n)
      rest.forM fun
        | .mk target source conditions isAsync => do
          inTarget (expr n target)
          inSource (expr n source)
          conditions.forM (expr n)
          if isAsync then awaits
      element
    match (← get).current.inner with
    | scope :: _ => if scope.facts.isCoroutine && what ≠ .generator then awaits
    | [] => pure ()

end

/-- Reads an annotation. -/
def hint (n : Nat) (e : Expr) : Collect Unit := do
  if (← get).delayed then inScope .hint e.span (expr n e) else expr n e

/-- Reads the annotations of parameters. -/
def parameterAnnotations (n : Nat) (span : Span) (ps : Params) : Collect Unit := do
  let one (p : Param) : Collect Unit := p.hint.forM (expr n)
  let body : Collect Unit := do
    ps.positionalOnly.forM one
    ps.positional.forM one
    ps.variadic.forM one
    ps.variadicKeyword.forM one
    ps.keywordOnly.forM one
  if (← get).delayed then inScope .hint span body else body

/-- Reads a pattern. -/
def pattern : Nat → Pattern → Collect Unit
  | 0, _ => throw .tooDeep
  | n + 1, p => do
    let all (ps : List Pattern) : Collect Unit := ps.forM (pattern n)
    let capture (name : Option String) : Collect Unit :=
      name.forM fun name => define name .assigned p.span
    match p with
    | .value _ v => expr n v
    | .singleton .. => pure ()
    | .sequence _ ps => all ps
    | .mapping _ ks ps rest => do
      ks.forM (expr n)
      all ps
      capture rest
    | .classOf _ c ps _ kps => do
      expr n c
      all ps
      all kps
    | .star _ name => capture name
    | .bind _ p name => do
      p.forM (pattern n)
      capture name
    | .anyOf _ ps => all ps

/-- Reads a statement. -/
def stmt : Nat → Stmt → Collect Unit
  | 0, _ => throw .tooDeep
  | n + 1, .mk span form => do
    let one := expr n
    let all (es : List Expr) : Collect Unit := es.forM (expr n)
    let one? (e : Option Expr) : Collect Unit := e.forM (expr n)
    let body (ss : List Stmt) : Collect Unit := ss.forM (stmt n)
    match form with
    | .functionDef isAsync name ps b decorators returns => do
      define name .assigned span
      all ps.defaults
      ps.keywordDefaults.forM one?
      parameterAnnotations n span ps
      returns.forM (hint n)
      all decorators
      inScope .function span do
        if isAsync then awaits
        parameters ps
        body b
    | .classDef name bases keywords b decorators => do
      define name .assigned span
      all bases
      keywords.forM fun k => one k.value
      all decorators
      inScope .classBody span do
        let owner := (← get).owner
        modify fun s => { s with owner := some name }
        body b
        modify fun s => { s with owner }
    | .returnStmt v => one? v
    | .deleteStmt ts => all ts
    | .assign ts v => do all ts; one v
    | .annAssign target a v simple => do
      match target.form with
      | .name id _ =>
        let roles ← rolesOf id
        let s ← get
        if simple && s.current.facts.kind ≠ .module then
          if roles.contains .declaredGlobal then refuse (.annotated id .globalNames) span
          if roles.contains .declaredNonlocal then refuse (.annotated id .nonlocalNames) span
        if simple then
          define id .annotated target.span
          define id .assigned target.span
        else if v.isSome then define id .assigned target.span
      | _ => one target
      hint n a
      one? v
    | .augAssign t _ v => do one t; one v
    | .forLoop _ t s b e => do
      one t
      one s
      body b
      body e
    | .whileLoop t b e | .ifStmt t b e => do
      one t
      body b
      body e
    | .matchStmt s cases => do
      one s
      cases.forM fun
        | .mk p guard b => do
          pattern n p
          one? guard
          body b
    | .raiseStmt e cause => do one? e; one? cause
    | .tryStmt _ b handlers e f => do
      body b
      body e
      handlers.forM fun
        | .mk hspan type name b => do
          one? type
          name.forM fun name => define name .assigned hspan
          body b
      body f
    | .assertStmt t m => do one t; one? m
    | .importNames names => names.forM importName
    | .importFrom _ names _ => names.forM importName
    | .globalNames names => names.forM (declare .globalNames span)
    | .nonlocalNames names => names.forM (declare .nonlocalNames span)
    | .expr v => one v
    | .withStmt _ items b => do
      items.forM fun i => do
        one i.context
        one? i.target
      body b
    | .pass | .breakStmt | .continueStmt => pure ()

/-- Reads the scopes of a module. -/
def module (depth : Nat) (delayed : Bool) (m : Module) : Except Stop Scope := do
  let start : ScopeStack :=
    ⟨⟨.ofKind .module ⟨1, 0, 1, 0⟩, [], false, 0⟩, [], none, delayed⟩
  let (_, s) ← (m.forM (stmt depth)).run start
  return .mk s.current.facts s.current.inner.reverse

end Collect

end Playground.Source
