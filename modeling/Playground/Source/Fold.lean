import Playground.Source.Literal.Fold
import Playground.Source.Parser.Basic

/-!
# Folding

A tree in which operators on literals, tuples of literals and items of literal sequences are
replaced by their values. Lists and sets that are only gone through or searched become tuples and
frozen sets. A negated identity or membership test becomes the opposite test.

Each function is given how deeply the tree may still be nested.
-/

namespace Playground.Source

/-- The deepest nesting of a tree. -/
def maxNesting : Nat := 2900

namespace Fold

/-- The value of a literal expression. -/
def literal? (e : Expr) : Option Literal :=
  match e.form with
  | .literal v => some v
  | _ => none

/-- The values of expressions that are all literals. -/
def literals? (es : List Expr) : Option (List Literal) :=
  es.mapM literal?

/-- The opposite of an identity or membership test. -/
def opposite? : CompareOp → Option CompareOp
  | .isSame => some .isNotSame
  | .isNotSame => some .isSame
  | .isIn => some .isNotIn
  | .isNotIn => some .isIn
  | _ => none

/-- An operator before a folded operand. -/
def unary (span : Span) (op : UnaryOp) (e : Expr) : Expr :=
  let plain := Expr.mk span (.unary op e)
  match e.form with
  | .literal v => ((Literal.unary? op v).map fun w => Expr.mk span (.literal w)).getD plain
  | .compare left [o] right =>
    if op = .not then ((opposite? o).map fun o => Expr.mk e.span (.compare left [o] right)).getD plain
    else plain
  | _ => plain

/-- An operator between folded operands. Formatting a text is left alone. -/
def binary (span : Span) (a : Expr) (op : BinaryOp) (b : Expr) : Expr :=
  let plain := Expr.mk span (.binary a op b)
  match literal? a, literal? b with
  | some x, some y =>
    match op, x with
    | .mod, .text .. | .mod, .bytes _ => plain
    | _, _ => ((Literal.binary? op x y).map fun v => Expr.mk span (.literal v)).getD plain
  | _, _ => plain

/-- A folded expression that is only gone through or searched. -/
def gone (e : Expr) : Expr :=
  match e.form with
  | .list es usage =>
    if es.any fun x => match x.form with | .starred .. => true | _ => false then e
    else
      match literals? es with
      | some vs => .mk e.span (.literal (.tuple vs))
      | none => .mk e.span (.tuple es usage)
  | .set es =>
    match literals? es with
    | some vs => .mk e.span (.literal (.frozenset vs))
    | none => e
  | _ => e

/-- Folds the last operand of a comparison that searches it. -/
def searched (ops : List CompareOp) (right : List Expr) : List Expr :=
  match ops.getLast? with
  | some .isIn | some .isNotIn =>
    match right.getLast? with
    | some e => right.dropLast ++ [gone e]
    | none => right
  | _ => right

mutual

/-- Folds an expression. -/
def expr : Nat → Expr → Except Stop Expr
  | 0, _ => .error .tooDeep
  | n + 1, .mk span form => do
    let one := expr n
    let all (es : List Expr) : Except Stop (List Expr) := es.mapM (expr n)
    let some? (e : Option Expr) : Except Stop (Option Expr) := e.mapM (expr n)
    let node (f : ExprForm) : Except Stop Expr := .ok (.mk span f)
    match form with
    | .boolean isOr es => node (.boolean isOr (← all es))
    | .named t v => node (.named (← one t) (← one v))
    | .binary a op b => return binary span (← one a) op (← one b)
    | .unary op a => return unary span op (← one a)
    | .lambda ps b => node (.lambda (← params n ps) (← one b))
    | .conditional t b e => node (.conditional (← one t) (← one b) (← one e))
    | .dict items => node (.dict (← items.mapM fun (k, v) => do return (← some? k, ← one v)))
    | .set es => node (.set (← all es))
    | .comprehension kind e cs => node (.comprehension kind (← one e) (← cs.mapM (clause n)))
    | .dictComprehension k v cs =>
      node (.dictComprehension (← one k) (← one v) (← cs.mapM (clause n)))
    | .await v => node (.await (← one v))
    | .yield v => node (.yield (← some? v))
    | .yieldFrom v => node (.yieldFrom (← one v))
    | .compare l ops r => node (.compare (← one l) ops (searched ops (← all r)))
    | .call f as ks => node (.call (← one f) (← all as) (← ks.mapM (keyword n)))
    | .formatted v c f => node (.formatted (← one v) c (← some? f))
    | .joined ps => node (.joined (← all ps))
    | .literal v => node (.literal v)
    | .attribute v a u => node (.attribute (← one v) a u)
    | .subscript v i u => do
      let v ← one v
      let i ← one i
      let plain := Expr.mk span (.subscript v i u)
      match u, literal? v, literal? i with
      | .load, some x, some y =>
        return ((Literal.item? x y).map fun w => Expr.mk span (.literal w)).getD plain
      | _, _, _ => return plain
    | .starred v u => node (.starred (← one v) u)
    | .name id u =>
      if u = .load && id == "__debug__" then node (.literal (.bool true)) else node (.name id u)
    | .list es u => node (.list (← all es) u)
    | .tuple es u => do
      let es ← all es
      match u, literals? es with
      | .load, some vs => node (.literal (.tuple vs))
      | _, _ => node (.tuple es u)
    | .slice l u s => node (.slice (← some? l) (← some? u) (← some? s))

/-- Folds the parameters of a function. -/
def params : Nat → Params → Except Stop Params
  | 0, _ => .error .tooDeep
  | n + 1, .mk po p v k kd vk d => do
    let param : Param → Except Stop Param
      | .mk span name hint => do return .mk span name (← hint.mapM (expr n))
    return .mk (← po.mapM param) (← p.mapM param) (← v.mapM param) (← k.mapM param)
      (← kd.mapM fun e => e.mapM (expr n)) (← vk.mapM param) (← d.mapM (expr n))

/-- Folds one clause of a comprehension. -/
def clause : Nat → Clause → Except Stop Clause
  | 0, _ => .error .tooDeep
  | n + 1, .mk t s cs a => do return .mk (← expr n t) (gone (← expr n s)) (← cs.mapM (expr n)) a

/-- Folds a keyword argument. -/
def keyword : Nat → Keyword → Except Stop Keyword
  | 0, _ => .error .tooDeep
  | n + 1, .mk span name v => do return .mk span name (← expr n v)

end

/-- Folds a pattern. -/
def pattern : Nat → Pattern → Except Stop Pattern
  | 0, _ => .error .tooDeep
  | n + 1, p => do
    let all (ps : List Pattern) : Except Stop (List Pattern) := ps.mapM (pattern n)
    match p with
    | .value span v => return .value span (← expr n v)
    | .singleton span v => return .singleton span v
    | .sequence span ps => return .sequence span (← all ps)
    | .mapping span ks ps rest => return .mapping span (← ks.mapM (expr n)) (← all ps) rest
    | .classOf span c ps ks kps => return .classOf span (← expr n c) (← all ps) ks (← all kps)
    | .star span name => return .star span name
    | .bind span p name => return .bind span (← p.mapM (pattern n)) name
    | .anyOf span ps => return .anyOf span (← all ps)

/-- Folds a statement; annotations are folded only if they are evaluated. -/
def stmt (evaluated : Bool) : Nat → Stmt → Except Stop Stmt
  | 0, _ => .error .tooDeep
  | n + 1, .mk span form => do
    let one := expr n
    let all (es : List Expr) : Except Stop (List Expr) := es.mapM (expr n)
    let some? (e : Option Expr) : Except Stop (Option Expr) := e.mapM (expr n)
    let body (ss : List Stmt) : Except Stop (List Stmt) := ss.mapM (stmt evaluated n)
    let node (f : StmtForm) : Except Stop Stmt := .ok (.mk span f)
    match form with
    | .functionDef a name ps b ds r =>
      node (.functionDef a name (← params n ps) (← body b) (← all ds) (← some? r))
    | .classDef name bs ks b ds =>
      node (.classDef name (← all bs) (← ks.mapM (keyword n)) (← body b) (← all ds))
    | .returnStmt v => node (.returnStmt (← some? v))
    | .deleteStmt ts => node (.deleteStmt (← all ts))
    | .assign ts v => node (.assign (← all ts) (← one v))
    | .augAssign t op v => node (.augAssign (← one t) op (← one v))
    | .annAssign t a v s =>
      node (.annAssign (← one t) (← if evaluated then one a else pure a) (← some? v) s)
    | .forLoop a t s b e =>
      node (.forLoop a (← one t) (gone (← one s)) (← body b) (← body e))
    | .whileLoop t b e => node (.whileLoop (← one t) (← body b) (← body e))
    | .ifStmt t b e => node (.ifStmt (← one t) (← body b) (← body e))
    | .withStmt a is b =>
      let is ← is.mapM fun i => do
        return (⟨← one i.context, ← some? i.target⟩ : WithItem)
      node (.withStmt a is (← body b))
    | .matchStmt s cs =>
      let cs ← cs.mapM fun
        | .mk p g b => do return Case.mk (← pattern n p) (← some? g) (← body b)
      node (.matchStmt (← one s) cs)
    | .raiseStmt e c => node (.raiseStmt (← some? e) (← some? c))
    | .tryStmt s b hs e f =>
      let hs ← hs.mapM fun
        | .mk hspan t name hb => do return Handler.mk hspan (← some? t) name (← body hb)
      node (.tryStmt s (← body b) hs (← body e) (← body f))
    | .assertStmt t m => node (.assertStmt (← one t) (← some? m))
    | .expr v => node (.expr (← one v))
    | other => node other

end Fold

/-- A module with its literals folded. -/
def foldModule (evaluated : Bool) (m : Module) : Except Stop Module :=
  m.mapM (Fold.stmt evaluated maxNesting)

end Playground.Source
