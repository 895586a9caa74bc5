import Playground.Source.Check.Basic

/-!
# Compiling expressions

Each function is given how deeply the tree may still be nested.
-/

namespace Playground.Source.Check

/-- The place of the name of an attribute that is not on the first line of its expression. -/
def attributeSpot (span : Span) (name : String) : Spot :=
  let spot := Spot.ofSpan span
  if span.line = span.endLine then spot
  else { spot with line := span.endLine, col := span.endCol - name.length }

mutual

/-- Compiles an expression. -/
def expr : Nat → Expr → Check Unit
  | 0, _ => throw .tooDeep
  | n + 1, .mk span form => atSpan span do
    let all (es : List Expr) : Check Unit := es.forM (expr n)
    let one? (e : Option Expr) : Check Unit := e.forM (expr n)
    match form with
    | .named t v => do expr n v; expr n t
    | .boolean _ es => all es
    | .binary a _ b => do expr n a; expr n b
    | .unary _ a => expr n a
    | .lambda ps body => do
      checkParameters ps
      defaults n ps
      inUnit .lambda (← scopeAt false span) span (expr n body)
    | .conditional t b e => do expr n t; expr n b; expr n e
    | .dict items => items.forM fun i => do one? i.1; expr n i.2
    | .set es => elements n es
    | .comprehension kind e clauses =>
      comprehension n (kind = .generator) span clauses (expr n e)
    | .dictComprehension k v clauses =>
      comprehension n false span clauses (do expr n k; expr n v)
    | .yield v => do
      unless (← get).unit.kind.isFunction do refuse .yieldOutside
      one? v
    | .yieldFrom v => do
      let kind := (← get).unit.kind
      unless kind.isFunction do refuse .yieldOutside
      if kind = .function true then refuse .yieldFromInAsync
      expr n v
    | .await v => do
      unless ← awaitsAtTop do
        match (← get).unit.kind with
        | .module | .classBody => refuse .awaitOutside
        | .function true | .comprehension => pure ()
        | .function false | .lambda => refuse .awaitInPlain
      expr n v
    | .compare a ops bs => do
      checkIdentity a ops bs
      expr n a
      all bs
    | .call f args keywords => do
      checkKeywords keywords
      checkCalled f
      expr n f
      arguments n args keywords
    | .formatted v _ f => do expr n v; one? f
    | .joined ps => all ps
    | .literal _ => pure ()
    | .attribute v name usage => do
      expr n v
      moveTo (attributeSpot span name)
      if usage = .store then bind name
    | .subscript v i usage => do
      if usage = .load then checkItem v i
      expr n v
      expr n i
    | .starred _ usage => refuse (if usage = .store then .starredTarget else .starredValue)
    | .name id usage =>
      match usage with
      | .load => pure ()
      | .store => bind id
      | .delete => unbind id
    | .list es usage | .tuple es usage =>
      match usage with
      | .load => elements n es
      | .store => do
        checkStarred es
        es.forM fun e => expr n (unstarred e)
      | .delete => all es
    | .slice l u s => do one? l; one? u; one? s

/-- Compiles elements, which may be starred. -/
def elements : Nat → List Expr → Check Unit
  | 0, _ => throw .tooDeep
  | n + 1, es => es.forM fun e => expr n (unstarred e)

/-- Compiles the arguments of a call. -/
def arguments : Nat → List Expr → List Keyword → Check Unit
  | 0, _, _ => throw .tooDeep
  | n + 1, args, keywords => do
    args.forM fun e => expr n (unstarred e)
    keywords.forM fun k => expr n k.value

/-- Compiles the defaults of parameters. -/
def defaults : Nat → Params → Check Unit
  | 0, _ => throw .tooDeep
  | n + 1, ps => do
    ps.defaults.forM (expr n)
    ps.keywordDefaults.forM fun e => e.forM (expr n)

/-- Compiles a comprehension: all but its first source, as a unit of its own, and then that. -/
def comprehension : Nat → Bool → Span → List Clause → Check Unit → Check Unit
  | 0, _, _, _, _ => throw .tooDeep
  | _, _, _, [], _ => pure ()
  | n + 1, isGenerator, span, first :: rest, element => do
    let facts ← scopeAt true span
    let outer := (← get).unit.kind
    let mayAwait := (← awaitsAtTop) || outer = .function true || outer = .comprehension
    inUnit .comprehension facts span do
      if facts.isCoroutine && !isGenerator && !mayAwait then refuse .asyncComprehension
      clauses n true (first :: rest) element
    expr n first.source

/-- Compiles the clauses of a comprehension, and its element inside them. -/
def clauses : Nat → Bool → List Clause → Check Unit → Check Unit
  | _, _, [], element => element
  | 0, _, _, _ => throw .tooDeep
  | n + 1, isFirst, .mk target source conditions isAsync :: rest, element => do
    unless isFirst do
      match isAsync, source.form with
      | false, .list [e] _ | false, .tuple [e] _ => expr n (if isStarred e then source else e)
      | _, _ => expr n source
    let body : Check Unit := do
      expr n target
      conditions.forM (expr n)
      clauses n false rest element
    if isAsync then inBlock .asyncClause body else body

end

end Playground.Source.Check
