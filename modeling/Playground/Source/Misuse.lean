import Playground.Source.Fault
import Playground.Source.Tree
import Playground.Text.Quoted

/-!
# Misuse

What is wrong with a module that has a syntax tree and nevertheless does not compile. `Misuse` names
the reason and `Misuse.message` words it; `Misuse.fault` adds the place. Columns are counted in
bytes here.
-/

namespace Playground.Source

/-- A place in a source text while a tree is compiled. All parts are `-1` for what no text accounts
for. -/
structure Spot where
  line : Int
  col : Int
  endLine : Int
  endCol : Int
  deriving DecidableEq, Repr, Inhabited

/-- The place of a span. -/
def Spot.ofSpan (s : Span) : Spot :=
  ⟨s.line, s.col, s.endLine, s.endCol⟩

/-- The place of what no text accounts for. -/
def Spot.none : Spot :=
  ⟨-1, -1, -1, -1⟩

/-- The two statements that declare names to belong to another scope. -/
inductive Declaration where
  | globalNames | nonlocalNames
  deriving DecidableEq, Repr, Inhabited

/-- The word of a declaration. -/
def Declaration.word : Declaration → String
  | .globalNames => "global"
  | .nonlocalNames => "nonlocal"

/-- What a comprehension makes. -/
inductive Gathering where
  | list | set | dict | generator
  deriving DecidableEq, Repr, Inhabited

/-- The words for a comprehension. -/
def Gathering.words : Gathering → String
  | .list => "list comprehension"
  | .set => "set comprehension"
  | .dict => "dict comprehension"
  | .generator => "generator expression"

/-- The reasons for which a module with a syntax tree does not compile. -/
inductive Misuse where
  -- Future features.
  | lateFuture
  | unknownFuture (feature : String)
  | braces
  -- Names.
  | repeatedParameter (name : String)
  | declaredParameter (name : String) (declared : Declaration)
  | usedBefore (name : String) (declared : Declaration)
  | assignedBefore (name : String) (declared : Declaration)
  | annotated (name : String) (declared : Declaration)
  | nonlocalAndGlobal (name : String)
  | nonlocalInModule
  | unboundNonlocal (name : String)
  | importAllInside
  | namedInClassComprehension
  | namedIteration (name : String)
  | iteratedNamed (name : String)
  | namedInSource
  | inHint (what : String)
  | yieldInComprehension (what : Gathering)
  | assignedConstant (name : String)
  | deletedConstant (name : String)
  -- Statements.
  | returnOutside
  | returnsValue
  | breakOutside
  | continueOutside
  | leavesStarHandler
  | tooManyBlocks
  | defaultHandlerNotLast
  -- Expressions.
  | yieldOutside
  | yieldFromInAsync
  | awaitOutside
  | awaitInPlain
  | asyncOutside (what : String)
  | asyncComprehension
  | repeatedKeyword (name : String)
  | starredTarget
  | starredValue
  | starredTwice
  | starredTooFar
  -- Patterns.
  | unreachableAfterCapture (name : String)
  | unreachableAfterWildcard
  | capturedTwice (name : String)
  | differentNames
  | repeatedAttribute (name : String)
  | repeatedKey (shown : String)
  | computedKey
  | computedPattern
  | starredNamesTwice
  | starredPatternTooFar
  deriving DecidableEq, Repr

/-- The wording of a misuse. -/
def Misuse.message : Misuse → String
  | .lateFuture => "from __future__ imports must occur at the beginning of the file"
  | .unknownFuture feature =>
    s!"future feature {String.ofList (feature.toList.take 100)} is not defined"
  | .braces => "not a chance"
  | .repeatedParameter name => s!"duplicate argument '{name}' in function definition"
  | .declaredParameter name declared => s!"name '{name}' is parameter and {declared.word}"
  | .usedBefore name declared => s!"name '{name}' is used prior to {declared.word} declaration"
  | .assignedBefore name declared =>
    s!"name '{name}' is assigned to before {declared.word} declaration"
  | .annotated name declared => s!"annotated name '{name}' can't be {declared.word}"
  | .nonlocalAndGlobal name => s!"name '{name}' is nonlocal and global"
  | .nonlocalInModule => "nonlocal declaration not allowed at module level"
  | .unboundNonlocal name => s!"no binding for nonlocal '{name}' found"
  | .importAllInside => "import * only allowed at module level"
  | .namedInClassComprehension =>
    "assignment expression within a comprehension cannot be used in a class body"
  | .namedIteration name =>
    s!"assignment expression cannot rebind comprehension iteration variable '{name}'"
  | .iteratedNamed name =>
    s!"comprehension inner loop cannot rebind assignment expression target '{name}'"
  | .namedInSource =>
    "assignment expression cannot be used in a comprehension iterable expression"
  | .inHint what => s!"'{what}' can not be used within an annotation"
  | .yieldInComprehension what => s!"'yield' inside {what.words}"
  | .assignedConstant name => s!"cannot assign to {name}"
  | .deletedConstant name => s!"cannot delete {name}"
  | .returnOutside => "'return' outside function"
  | .returnsValue => "'return' with value in async generator"
  | .breakOutside => "'break' outside loop"
  | .continueOutside => "'continue' not properly in loop"
  | .leavesStarHandler =>
    "'break', 'continue' and 'return' cannot appear in an except* block"
  | .tooManyBlocks => "too many statically nested blocks"
  | .defaultHandlerNotLast => "default 'except:' must be last"
  | .yieldOutside => "'yield' outside function"
  | .yieldFromInAsync => "'yield from' inside async function"
  | .awaitOutside => "'await' outside function"
  | .awaitInPlain => "'await' outside async function"
  | .asyncOutside what => s!"'async {what}' outside async function"
  | .asyncComprehension => "asynchronous comprehension outside of an asynchronous function"
  | .repeatedKeyword name => s!"keyword argument repeated: {name}"
  | .starredTarget => "starred assignment target must be in a list or tuple"
  | .starredValue => "can't use starred expression here"
  | .starredTwice => "multiple starred expressions in assignment"
  | .starredTooFar => "too many expressions in star-unpacking assignment"
  | .unreachableAfterCapture name =>
    s!"name capture {Text.quoted name} makes remaining patterns unreachable"
  | .unreachableAfterWildcard => "wildcard makes remaining patterns unreachable"
  | .capturedTwice name => s!"multiple assignments to name {Text.quoted name} in pattern"
  | .differentNames => "alternative patterns bind different names"
  | .repeatedAttribute name => s!"attribute name repeated in class pattern: {name}"
  | .repeatedKey shown => s!"mapping pattern checks duplicate key ({shown})"
  | .computedKey => "mapping pattern keys may only match literals and attribute lookups"
  | .computedPattern => "patterns may only match literals and attribute lookups"
  | .starredNamesTwice => "multiple starred names in sequence pattern"
  | .starredPatternTooFar => "too many expressions in star-unpacking sequence pattern"

/-- The fault of a misuse at a place. -/
def Misuse.fault (m : Misuse) (spot : Spot) : SyntaxFault :=
  { kind := .syntaxError
    message := some m.message
    line := some spot.line
    offset := some (spot.col + 1)
    endLine := some spot.endLine
    endOffset := some (spot.endCol + 1) }

/-- The end of compiling at a misuse. -/
def Misuse.stop (m : Misuse) (spot : Spot) : Stop :=
  .fault (m.fault spot)

end Playground.Source
