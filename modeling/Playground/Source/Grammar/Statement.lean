import Playground.Source.Grammar.Shape

/-!
# The grammar of statements

A module is a sequence of statements. Simple statements share a line, separated by semicolons;
compound statements hold blocks, which are indented or stand on the line of their header.
-/

namespace Playground.Source.Grammar

open Playground.Source.Parser

variable (call : Reader)

/-! ## Modules and blocks -/

def file : Parser (List Stmt) := do
  let a ← maybe (call .statements)
  let _ ← kind .endMarker
  return a.getD []

def statements : Parser (List Stmt) := do
  return (← many1 (call .statement)).flatten

def statement : Parser (List Stmt) :=
  firstOf [
    do return [← call .compoundStatement],
    call .simpleStatements]

def simpleStatements : Parser (List Stmt) :=
  firstOf [
    do
      let a ← call .simpleStatement
      notAhead (op ";")
      let _ ← kind .newline
      return [a],
    do
      let first ← call .simpleStatement
      let rest ← many do
        let _ ← op ";"
        call .simpleStatement
      let _ ← maybe (op ";")
      let _ ← kind .newline
      return first :: rest]

/-- A rule that is tried only where one of the words is next. -/
def after (words : List String) (r : Parser Stmt) : Parser Stmt := do
  ahead (firstOf (words.map kw))
  r

/-- A statement of one word. -/
def wordStmt (word : String) (form : StmtForm) : Parser Stmt :=
  stmt do
    let _ ← kw word
    return form

def simpleStatement : Parser Stmt :=
  firstOf [
    call .assignment,
    stmt do return .expr (← call .starExpressions),
    after ["return"] (call .returnStatement),
    after ["import", "from"] (call .importStatement),
    after ["raise"] (call .raiseStatement),
    wordStmt "pass" .pass,
    after ["del"] (call .delStatement),
    after ["yield"] (call .yieldStatement),
    after ["assert"] (call .assertStatement),
    wordStmt "break" .breakStmt,
    wordStmt "continue" .continueStmt,
    after ["global"] (call .globalStatement),
    after ["nonlocal"] (call .nonlocalStatement)]

/-- A rule that is tried only where a word, a decorator or `async` is next. -/
def afterMark (first : Parser Token) (r : Parser Stmt) : Parser Stmt := do
  ahead (nested first)
  r

def compoundStatement : Parser Stmt :=
  firstOf [
    afterMark (firstOf [kw "def", op "@", kw "async"]) (call .functionDef),
    after ["if"] (call .ifStatement),
    afterMark (firstOf [kw "class", op "@"]) (call .classDef),
    afterMark (firstOf [kw "with", kw "async"]) (call .withStatement),
    afterMark (firstOf [kw "for", kw "async"]) (call .forStatement),
    after ["try"] (call .tryStatement),
    after ["while"] (call .whileStatement),
    call .matchStatement]

def block : Parser (List Stmt) :=
  firstOf [
    do
      let _ ← kind .newline
      let _ ← kind .indent
      let a ← call .statements
      let _ ← kind .dedent
      return a,
    call .simpleStatements,
    mistake (call .badBlock)]

/-! ## Simple statements -/

/-- A value that may be a `yield`. -/
def yieldOrStar : Parser Expr := choice [call .yieldExpr, call .starExpressions]

def assignment : Parser Stmt :=
  firstOf [
    stmt do
      let a ← nameExpr .store
      let _ ← op ":"
      let b ← call .expression
      let c ← maybe (nested do
        let _ ← op "="
        call .annotatedValue)
      return .annAssign a b c true,
    stmt do
      let a ← choice [
        do
          let _ ← op "("
          let b ← call .singleTarget
          let _ ← op ")"
          return b,
        call .singlePlaceTarget]
      let _ ← op ":"
      let b ← call .expression
      let c ← maybe (nested do
        let _ ← op "="
        call .annotatedValue)
      return .annAssign a b c false,
    stmt do
      let a ← many1 (nested do
        let z ← call .starTargets
        let _ ← op "="
        return z)
      let b ← yieldOrStar call
      notAhead (op "=")
      return .assign a b,
    stmt do
      let a ← call .singleTarget
      let o ← call .augmentedOp
      committed do
        let c ← yieldOrStar call
        return .augAssign a o c,
    mistake (call .badAssignment)]

def annotatedValue : Parser Expr := firstOf [call .yieldExpr, call .starExpressions]

/-- The operators of augmented assignments. -/
def augmentedOps : List (String × BinaryOp) :=
  [("+=", .add), ("-=", .sub), ("*=", .mul), ("@=", .matMul), ("/=", .div), ("%=", .mod),
   ("&=", .bitAnd), ("|=", .bitOr), ("^=", .bitXor), ("<<=", .shiftLeft), (">>=", .shiftRight),
   ("**=", .pow), ("//=", .floorDiv)]

def augmentedOp : Parser BinaryOp :=
  firstOf (augmentedOps.map fun (text, o) => do
    let _ ← op text
    return o)

def returnStatement : Parser Stmt :=
  stmt do
    let _ ← kw "return"
    return .returnStmt (← maybe (call .starExpressions))

def raiseStatement : Parser Stmt :=
  firstOf [
    stmt do
      let _ ← kw "raise"
      let a ← call .expression
      let b ← maybe (nested do
        let _ ← kw "from"
        call .expression)
      return .raiseStmt (some a) b,
    wordStmt "raise" (.raiseStmt none none)]

def globalStatement : Parser Stmt :=
  stmt do
    let _ ← kw "global"
    return .globalNames ((← commaSep name).map Ident.name)

def nonlocalStatement : Parser Stmt :=
  stmt do
    let _ ← kw "nonlocal"
    return .nonlocalNames ((← commaSep name).map Ident.name)

def delStatement : Parser Stmt :=
  firstOf [
    stmt do
      let _ ← kw "del"
      let a ← call .delTargets
      ahead (choice [op ";", kind .newline])
      return .deleteStmt a,
    mistake (call .badDelStatement)]

def yieldStatement : Parser Stmt :=
  stmt do return .expr (← call .yieldExpr)

def assertStatement : Parser Stmt :=
  stmt do
    let _ ← kw "assert"
    let a ← call .expression
    let b ← maybe (nested do
      let _ ← op ","
      call .expression)
    return .assertStmt a b

/-! ## Imports -/

def importStatement : Parser Stmt := firstOf [call .importName, call .importFrom]

def importName : Parser Stmt :=
  stmt do
    let _ ← kw "import"
    return .importNames (← call .dottedAsNames)

/-- Dots, and how many they are. -/
def dots : Parser Token := choice [op ".", op "..."]

/-- The number of dots in some tokens. -/
def dotCount (ts : List Token) : Nat :=
  ts.foldr (fun t count => t.text.length + count) 0

def importFrom : Parser Stmt :=
  firstOf [
    stmt do
      let _ ← kw "from"
      let a ← many dots
      let b ← call .dottedName
      let _ ← kw "import"
      let c ← call .importFromTargets
      return .importFrom (some b.name) c (dotCount a),
    stmt do
      let _ ← kw "from"
      let a ← many1 dots
      let _ ← kw "import"
      let b ← call .importFromTargets
      return .importFrom none b (dotCount a)]

def importFromTargets : Parser (List Alias) :=
  firstOf [
    do
      let _ ← op "("
      let a ← call .importFromNames
      let _ ← maybe (op ",")
      let _ ← op ")"
      return a,
    do
      let a ← call .importFromNames
      notAhead (op ",")
      return a,
    spanned (op "*") fun span _ => [⟨span, "*", none⟩],
    mistake (call .badImportTargets)]

def importFromNames : Parser (List Alias) := commaSep (call .importFromName)

/-- The name after `as`, if there is one. -/
def asName : Parser (Option Ident) :=
  maybe (nested do
    let _ ← kw "as"
    name)

def importFromName : Parser Alias :=
  spanned
    (do
      let a ← name
      return (a, ← asName))
    fun span (a, b) => ⟨span, a.name, b.map Ident.name⟩

def dottedAsNames : Parser (List Alias) := commaSep (call .dottedAsName)

def dottedAsName : Parser Alias :=
  spanned
    (do
      let a ← call .dottedName
      return (a, ← asName))
    fun span (a, b) => ⟨span, a.name, b.map Ident.name⟩

def dottedName : Parser Ident :=
  firstOf [
    do
      let a ← call .dottedName
      let _ ← op "."
      let b ← name
      return ⟨s!"{a.name}.{b.name}", a.span.to b.span⟩,
    name]

/-! ## Definitions -/

def decorators : Parser (List Expr) :=
  many1 (nested do
    let _ ← op "@"
    let f ← call .namedExpression
    let _ ← kind .newline
    return f)

/-- Puts decorators on a definition; its place stays that of the definition itself. -/
def decorate (ds : List Expr) : Stmt → Stmt
  | .mk span (.functionDef isAsync name params body _ returns) =>
    .mk span (.functionDef isAsync name params body ds returns)
  | .mk span (.classDef name bases keywords body _) =>
    .mk span (.classDef name bases keywords body ds)
  | other => other

/-- A definition, with or without decorators. -/
def decorated (bare : Parser Stmt) : Parser Stmt :=
  firstOf [
    do
      let ds ← call .decorators
      return decorate ds (← bare),
    bare]

def classDef : Parser Stmt := decorated call (call .bareClassDef)

def bareClassDef : Parser Stmt :=
  firstOf [
    mistake (call .badClass),
    stmt do
      let _ ← kw "class"
      let a ← name
      let b ← maybe (nested do
        let _ ← op "("
        let z ← maybe (call .arguments)
        let _ ← op ")"
        return z)
      let _ ← op ":"
      let c ← call .block
      let b := b.getD none
      return .classDef a.name ((b.map Arguments.args).getD [])
        ((b.map Arguments.keywords).getD []) c []]

def functionDef : Parser Stmt := decorated call (call .bareFunctionDef)

def bareFunctionDef : Parser Stmt :=
  let define (isAsync : Bool) : Parser Stmt := stmt do
    if isAsync then discard (kw "async")
    let _ ← kw "def"
    let n ← name
    let _ ← must "("
    let ps ← maybe (call .params)
    let _ ← op ")"
    let a ← maybe (nested do
      let _ ← op "->"
      call .expression)
    let _ ← must ":"
    let b ← call .block
    return .functionDef isAsync n.name (ps.getD .empty) b [] a
  firstOf [mistake (call .badDef), define false, define true]

/-! ## Compound statements -/

def ifStatement : Parser Stmt :=
  let branch (rest : Parser (List Stmt)) : Parser Stmt := stmt do
    let _ ← kw "if"
    let a ← call .namedExpression
    let _ ← op ":"
    let b ← call .block
    return .ifStmt a b (← rest)
  firstOf [
    mistake (call .badIf),
    branch do return [← call .elifStatement],
    branch do return (← maybe (call .elseBlock)).getD []]

def elifStatement : Parser Stmt :=
  let branch (rest : Parser (List Stmt)) : Parser Stmt := stmt do
    let _ ← kw "elif"
    let a ← call .namedExpression
    let _ ← op ":"
    let b ← call .block
    return .ifStmt a b (← rest)
  firstOf [
    mistake (call .badElif),
    branch do return [← call .elifStatement],
    branch do return (← maybe (call .elseBlock)).getD []]

def elseBlock : Parser (List Stmt) :=
  firstOf [
    mistake (call .badElse),
    do
      let _ ← kw "else"
      let _ ← must ":"
      call .block]

def whileStatement : Parser Stmt :=
  firstOf [
    mistake (call .badWhile),
    stmt do
      let _ ← kw "while"
      let a ← call .namedExpression
      let _ ← op ":"
      let b ← call .block
      return .whileLoop a b ((← maybe (call .elseBlock)).getD [])]

def forStatement : Parser Stmt :=
  let loop (isAsync : Bool) : Parser Stmt := stmt do
    if isAsync then discard (kw "async")
    let _ ← kw "for"
    let t ← call .starTargets
    let _ ← kw "in"
    committed do
      let e ← call .starExpressions
      let _ ← op ":"
      let b ← call .block
      return .forLoop isAsync t e b ((← maybe (call .elseBlock)).getD [])
  firstOf [mistake (call .badFor), loop false, loop true, mistake (call .badForTarget)]

def withStatement : Parser Stmt :=
  let grouped (isAsync : Bool) : Parser Stmt := stmt do
    if isAsync then discard (kw "async")
    let _ ← kw "with"
    let _ ← op "("
    let a ← commaSep (call .withItem)
    let _ ← maybe (op ",")
    let _ ← op ")"
    let _ ← op ":"
    return .withStmt isAsync a (← call .block)
  let plain (isAsync : Bool) : Parser Stmt := stmt do
    if isAsync then discard (kw "async")
    let _ ← kw "with"
    let a ← commaSep (call .withItem)
    let _ ← op ":"
    return .withStmt isAsync a (← call .block)
  firstOf [
    mistake (call .badWithIndent), grouped false, plain false, grouped true, plain true,
    mistake (call .badWith)]

/-- What can follow an item of a `with` statement. -/
def itemEnd : Parser Unit := ahead (choice [op ",", op ")", op ":"])

def withItem : Parser WithItem :=
  firstOf [
    do
      let e ← call .expression
      let _ ← kw "as"
      let t ← call .starTarget
      itemEnd
      return ⟨e, some t⟩,
    mistake (call .badWithItem),
    do return ⟨← call .expression, none⟩]

def tryStatement : Parser Stmt :=
  let handled (isStar : Bool) (handler : Parser Handler) : Parser Stmt := stmt do
    let _ ← kw "try"
    let _ ← must ":"
    let b ← call .block
    let hs ← many1 handler
    let e ← maybe (call .elseBlock)
    let f ← maybe (call .finallyBlock)
    return .tryStmt isStar b hs (e.getD []) (f.getD [])
  firstOf [
    mistake (call .badTry),
    stmt do
      let _ ← kw "try"
      let _ ← must ":"
      let b ← call .block
      let f ← call .finallyBlock
      return .tryStmt false b [] [] f,
    handled false (call .exceptBlock),
    handled true (call .exceptStarBlock)]

def exceptBlock : Parser Handler :=
  firstOf [
    mistake (call .badExceptIndent),
    spanned
      (do
        let _ ← kw "except"
        let e ← call .expression
        let t ← asName
        let _ ← op ":"
        return (e, t, ← call .block))
      fun span (e, t, b) => .mk span (some e) (t.map Ident.name) b,
    spanned
      (do
        let _ ← kw "except"
        let _ ← op ":"
        call .block)
      fun span b => .mk span none none b,
    mistake (call .badExcept)]

def exceptStarBlock : Parser Handler :=
  firstOf [
    mistake (call .badExceptStarIndent),
    spanned
      (do
        let _ ← kw "except"
        let _ ← op "*"
        let e ← call .expression
        let t ← asName
        let _ ← op ":"
        return (e, t, ← call .block))
      fun span (e, t, b) => .mk span (some e) (t.map Ident.name) b,
    mistake (call .badExcept)]

def finallyBlock : Parser (List Stmt) :=
  firstOf [
    mistake (call .badFinally),
    do
      let _ ← kw "finally"
      let _ ← must ":"
      call .block]

end Playground.Source.Grammar
