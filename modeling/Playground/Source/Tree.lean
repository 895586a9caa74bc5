/-!
# Syntax trees

The tree of a module as the parser builds it. Every expression, statement and pattern carries the
span of source that it was read from; columns count UTF-8 bytes from the start of their line, lines
count from one.
-/

namespace Playground.Source

/-- Where a piece of syntax stands: lines from one, columns in UTF-8 bytes from zero. A column is
`-1` for a token that has no text of its own, such as the end of the module. -/
structure Span where
  line : Nat
  col : Int
  endLine : Nat
  endCol : Int
  deriving Repr, DecidableEq, Inhabited

/-- From the start of one span to the end of another. -/
def Span.to (a b : Span) : Span :=
  ⟨a.line, a.col, b.endLine, b.endCol⟩

/-- A name, with its place. -/
structure Ident where
  name : String
  span : Span
  deriving Repr, Inhabited

/-- A literal value, and the values that folding makes of literals. -/
inductive Literal where
  | none
  | bool (value : Bool)
  | ellipsis
  | int (value : Int)
  | float (value : Float)
  | complex (re im : Float)
  /-- Text; `unicodeMark` tells that it was written with the prefix `u`. -/
  | text (value : String) (unicodeMark : Bool)
  | bytes (value : List UInt8)
  | tuple (elements : List Literal)
  | frozenset (elements : List Literal)
  deriving Inhabited

/-- What a name is used for. -/
inductive Usage where
  | load
  | store
  | delete
  deriving DecidableEq, Repr, Inhabited

/-- Operators between two values. -/
inductive BinaryOp where
  | add | sub | mul | matMul | div | mod | pow | shiftLeft | shiftRight
  | bitOr | bitXor | bitAnd | floorDiv
  deriving DecidableEq, Repr, Inhabited

/-- Operators before one value. -/
inductive UnaryOp where
  | invert | not | plus | minus
  deriving DecidableEq, Repr, Inhabited

/-- Comparison operators. -/
inductive CompareOp where
  | eq | notEq | lt | ltE | gt | gtE | isSame | isNotSame | isIn | isNotIn
  deriving DecidableEq, Repr, Inhabited

/-- What a comprehension builds. -/
inductive ComprehensionKind where
  | list | set | generator
  deriving DecidableEq, Repr, Inhabited

/-- How a replacement field converts its value to text before formatting it. -/
inductive Conversion where
  | none | str | repr | ascii
  deriving DecidableEq, Repr, Inhabited

mutual

/-- An expression: its form, and where it stands. -/
inductive Expr where
  | mk (span : Span) (form : ExprForm)

/-- The forms of an expression. -/
inductive ExprForm where
  /-- `a and b and c`; `a or b` when `isOr`. -/
  | boolean (isOr : Bool) (operands : List Expr)
  | named (target value : Expr)
  | binary (left : Expr) (op : BinaryOp) (right : Expr)
  | unary (op : UnaryOp) (operand : Expr)
  | lambda (params : Params) (body : Expr)
  | conditional (test body orElse : Expr)
  /-- Keys and values in order; an item without a key unpacks a mapping. -/
  | dict (items : List (Option Expr × Expr))
  | set (elements : List Expr)
  | comprehension (kind : ComprehensionKind) (element : Expr) (clauses : List Clause)
  | dictComprehension (key value : Expr) (clauses : List Clause)
  | await (value : Expr)
  | yield (value : Option Expr)
  | yieldFrom (value : Expr)
  | compare (left : Expr) (ops : List CompareOp) (right : List Expr)
  | call (func : Expr) (args : List Expr) (keywords : List Keyword)
  | formatted (value : Expr) (conversion : Conversion) (format : Option Expr)
  | joined (parts : List Expr)
  | literal (value : Literal)
  | attribute (value : Expr) (name : String) (usage : Usage)
  | subscript (value index : Expr) (usage : Usage)
  | starred (value : Expr) (usage : Usage)
  | name (id : String) (usage : Usage)
  | list (elements : List Expr) (usage : Usage)
  | tuple (elements : List Expr) (usage : Usage)
  | slice (lower upper step : Option Expr)

/-- One `for` of a comprehension, with its conditions. -/
inductive Clause where
  | mk (target source : Expr) (conditions : List Expr) (isAsync : Bool)

/-- A keyword argument; without a name it unpacks a mapping. -/
inductive Keyword where
  | mk (span : Span) (name : Option String) (value : Expr)

/-- One parameter. -/
inductive Param where
  | mk (span : Span) (name : String) (hint : Option Expr)

/-- The parameters of a function: `defaults` belong to the last of the positional ones, and
`keywordDefaults` has one entry for each keyword-only parameter. -/
inductive Params where
  | mk (positionalOnly positional : List Param) (variadic : Option Param)
      (keywordOnly : List Param) (keywordDefaults : List (Option Expr))
      (variadicKeyword : Option Param) (defaults : List Expr)

end

instance : Inhabited Expr := ⟨.mk default (.literal .none)⟩
instance : Inhabited Params := ⟨.mk [] [] none [] [] none []⟩
instance : Inhabited Param := ⟨.mk default "" none⟩
instance : Inhabited Keyword := ⟨.mk default none default⟩
instance : Inhabited Clause := ⟨.mk default default [] false⟩

/-- Where an expression stands. -/
def Expr.span : Expr → Span
  | .mk span _ => span

/-- What an expression is. -/
def Expr.form : Expr → ExprForm
  | .mk _ form => form

/-- What a comprehension clause goes through. -/
def Clause.source : Clause → Expr
  | .mk _ source _ _ => source

/-- What is bound by a comprehension clause. -/
def Clause.target : Clause → Expr
  | .mk target _ _ _ => target

/-- The conditions of a comprehension clause. -/
def Clause.conditions : Clause → List Expr
  | .mk _ _ conditions _ => conditions

/-- Whether a comprehension clause is asynchronous. -/
def Clause.isAsync : Clause → Bool
  | .mk _ _ _ isAsync => isAsync

/-- Where a keyword argument stands. -/
def Keyword.span : Keyword → Span
  | .mk span _ _ => span

/-- The name of a keyword argument. -/
def Keyword.name : Keyword → Option String
  | .mk _ name _ => name

/-- The value of a keyword argument. -/
def Keyword.value : Keyword → Expr
  | .mk _ _ value => value

/-- Where a parameter stands. -/
def Param.span : Param → Span
  | .mk span _ _ => span

/-- The name of a parameter. -/
def Param.name : Param → String
  | .mk _ name _ => name

/-- The annotation of a parameter. -/
def Param.hint : Param → Option Expr
  | .mk _ _ hint => hint

namespace Params

/-- Parameters that come before a slash. -/
def positionalOnly : Params → List Param
  | .mk ps _ _ _ _ _ _ => ps

/-- Parameters that can be given by position or by name. -/
def positional : Params → List Param
  | .mk _ ps _ _ _ _ _ => ps

/-- The parameter that takes the remaining positional arguments. -/
def variadic : Params → Option Param
  | .mk _ _ p _ _ _ _ => p

/-- Parameters that can be given by name only. -/
def keywordOnly : Params → List Param
  | .mk _ _ _ ps _ _ _ => ps

/-- The default of each keyword-only parameter. -/
def keywordDefaults : Params → List (Option Expr)
  | .mk _ _ _ _ ds _ _ => ds

/-- The parameter that takes the remaining keyword arguments. -/
def variadicKeyword : Params → Option Param
  | .mk _ _ _ _ _ p _ => p

/-- The defaults of the last positional parameters. -/
def defaults : Params → List Expr
  | .mk _ _ _ _ _ _ ds => ds

/-- No parameters. -/
def empty : Params := .mk [] [] none [] [] none []

end Params

/-- The forms of a pattern in a `case`. -/
inductive Pattern where
  | value (span : Span) (value : Expr)
  | singleton (span : Span) (value : Literal)
  | sequence (span : Span) (patterns : List Pattern)
  | mapping (span : Span) (keys : List Expr) (patterns : List Pattern) (rest : Option String)
  | classOf (span : Span) (cls : Expr) (patterns : List Pattern) (keywords : List String)
      (keywordPatterns : List Pattern)
  /-- The rest of a sequence; without a name it is discarded. -/
  | star (span : Span) (name : Option String)
  /-- A pattern with a name for what it matches; without a pattern it matches all, and without a
  name as well it is the wildcard. -/
  | bind (span : Span) (pattern : Option Pattern) (name : Option String)
  | anyOf (span : Span) (patterns : List Pattern)

instance : Inhabited Pattern := ⟨.star default none⟩

/-- Where a pattern stands. -/
def Pattern.span : Pattern → Span
  | .value s _ | .singleton s _ | .sequence s _ | .mapping s _ _ _ | .classOf s _ _ _ _
  | .star s _ | .bind s _ _ | .anyOf s _ => s

/-- A name of an import, with the name that it is bound to. -/
structure Alias where
  span : Span
  name : String
  asName : Option String
  deriving Inhabited

/-- A context manager of a `with` statement and what it is bound to. -/
structure WithItem where
  context : Expr
  target : Option Expr
  deriving Inhabited

mutual

/-- A statement: its form, and where it stands. -/
inductive Stmt where
  | mk (span : Span) (form : StmtForm)

/-- The forms of a statement. -/
inductive StmtForm where
  | functionDef (isAsync : Bool) (name : String) (params : Params) (body : List Stmt)
      (decorators : List Expr) (returns : Option Expr)
  | classDef (name : String) (bases : List Expr) (keywords : List Keyword) (body : List Stmt)
      (decorators : List Expr)
  | returnStmt (value : Option Expr)
  | deleteStmt (targets : List Expr)
  | assign (targets : List Expr) (value : Expr)
  | augAssign (target : Expr) (op : BinaryOp) (value : Expr)
  /-- `simple` when the target is a name without parentheses. -/
  | annAssign (target hint : Expr) (value : Option Expr) (simple : Bool)
  | forLoop (isAsync : Bool) (target source : Expr) (body orElse : List Stmt)
  | whileLoop (test : Expr) (body orElse : List Stmt)
  | ifStmt (test : Expr) (body orElse : List Stmt)
  | withStmt (isAsync : Bool) (items : List WithItem) (body : List Stmt)
  | matchStmt (subject : Expr) (cases : List Case)
  | raiseStmt (exception cause : Option Expr)
  /-- `isStar` when the handlers are `except*`. -/
  | tryStmt (isStar : Bool) (body : List Stmt) (handlers : List Handler)
      (orElse finalBody : List Stmt)
  | assertStmt (test : Expr) (message : Option Expr)
  | importNames (names : List Alias)
  | importFrom (module : Option String) (names : List Alias) (level : Nat)
  | globalNames (names : List String)
  | nonlocalNames (names : List String)
  | expr (value : Expr)
  | pass
  | breakStmt
  | continueStmt

/-- One `except` of a `try` statement. -/
inductive Handler where
  | mk (span : Span) (type : Option Expr) (name : Option String) (body : List Stmt)

/-- One `case` of a `match` statement. -/
inductive Case where
  | mk (pattern : Pattern) (guard : Option Expr) (body : List Stmt)

end

instance : Inhabited Stmt := ⟨.mk default .pass⟩
instance : Inhabited Handler := ⟨.mk default none none []⟩
instance : Inhabited Case := ⟨.mk default none []⟩

/-- Where a statement stands. -/
def Stmt.span : Stmt → Span
  | .mk span _ => span

/-- What a statement is. -/
def Stmt.form : Stmt → StmtForm
  | .mk _ form => form

/-- A whole source text. -/
abbrev Module := List Stmt

end Playground.Source
