import Playground.Host.Value
import Playground.Text.Blank
import Playground.Text.Pieces

/-!
# Exceptions

The exceptions of programs and how they are described: the name of the type and what the exception
says, after the source line if it is about one, and before the notes on it.

Some types have rules of their own. Errors of the operating system take the type that their number
stands for, a missing key is shown as a value, and faults of source texts bring their place.

Making an exception may raise another one. So may describing a fault of a source text, for its place
can be made of any values; what other exceptions say is left out when it has no text.
-/

namespace Playground.Host

/-- Where values are shown. The calls under way there take their share of the stack. -/
inductive Site where
  /-- The program prints: at the top of its module or in its entry point, in a coroutine or not. -/
  | print (inEntry isCoroutine : Bool)
  /-- It prints by a function of the console. -/
  | console (inEntry isCoroutine : Bool)
  /-- The host shows the value of the program. -/
  | report
  /-- It asks an exception what it says. -/
  | wording
  /-- It looks for the lines of a fault. -/
  | lines
  /-- It puts the description of a fault together. -/
  | description
  deriving DecidableEq, Repr

/-- Where in a source text an exception is. -/
structure SourcePlace where
  file : Value
  line : Value
  column : Value
  text : Value
  endLine : Value
  endColumn : Value
  deriving Inhabited

/-- How an exception words what it says. -/
inductive Wording where
  /-- By its argument, or by all of them. -/
  | arguments
  /-- By a value, as it is shown. -/
  | key (value : Value)
  /-- By the number of an error of the operating system, a reason, and the paths that it is about. -/
  | system (number reason : Value) (paths : List Value)
  /-- By a text, if there is one. -/
  | fixed (text : Option String)
  deriving Inhabited

/-- An exception. -/
structure Exception where
  /-- The name of its type, with the module if that is told. -/
  type : String
  args : List Value
  wording : Wording
  /-- For a fault of a source text, its place; nothing is told of it otherwise. -/
  place : Option SourcePlace
  notes : List String
  /-- Whether its type is one that the program defines. -/
  isDefined : Bool
  deriving Inhabited

namespace Exception

/-- An exception without a rule of its own. -/
def plain (type : String) (args : List Value) : Exception :=
  ⟨type, args, .arguments, none, [], false⟩

/-- An exception with a message. -/
def ofMessage (type message : String) : Exception :=
  plain type [.text message]

/-- The exception for a value without a text. -/
def ofShowError (e : ShowError) : Exception :=
  ofMessage e.type e.message

/-- The types of errors that numbers of the operating system stand for. -/
def systemErrorTypes : List (Int × String) := [
  (1, "PermissionError"), (2, "FileNotFoundError"), (3, "ProcessLookupError"),
  (4, "InterruptedError"), (10, "ChildProcessError"), (11, "BlockingIOError"),
  (13, "PermissionError"), (17, "FileExistsError"), (20, "NotADirectoryError"),
  (21, "IsADirectoryError"), (32, "BrokenPipeError"), (103, "ConnectionAbortedError"),
  (104, "ConnectionResetError"), (108, "BrokenPipeError"), (110, "TimeoutError"),
  (111, "ConnectionRefusedError"), (114, "BlockingIOError"), (115, "BlockingIOError")]

/-- The types of errors of the operating system. -/
def systemTypes : List String := [
  "OSError", "BlockingIOError", "ChildProcessError", "ConnectionError", "BrokenPipeError",
  "ConnectionAbortedError", "ConnectionRefusedError", "ConnectionResetError", "FileExistsError",
  "FileNotFoundError", "InterruptedError", "IsADirectoryError", "NotADirectoryError",
  "PermissionError", "ProcessLookupError", "TimeoutError"]

/-- Types that bring the place of a fault in a source text. -/
def sourceTypes : List String :=
  ["SyntaxError", "IndentationError", "TabError"]

/-- All other types that programs can name. -/
def otherTypes : List String := [
  "BaseException", "BaseExceptionGroup", "Exception", "ExceptionGroup", "GeneratorExit",
  "KeyboardInterrupt", "SystemExit", "ArithmeticError", "AssertionError", "AttributeError",
  "BufferError", "EOFError", "FloatingPointError", "ImportError", "IndexError", "KeyError",
  "LookupError", "MemoryError", "ModuleNotFoundError", "NameError", "NotImplementedError",
  "OverflowError", "RecursionError", "ReferenceError", "RuntimeError", "StopAsyncIteration",
  "StopIteration", "SystemError", "TypeError", "UnboundLocalError", "UnicodeDecodeError",
  "UnicodeEncodeError", "UnicodeError", "UnicodeTranslateError", "ValueError",
  "ZeroDivisionError", "BytesWarning", "DeprecationWarning", "EncodingWarning",
  "FutureWarning", "ImportWarning", "PendingDeprecationWarning", "ResourceWarning",
  "RuntimeWarning", "SyntaxWarning", "UnicodeWarning", "UserWarning", "Warning"]

/-- The type that a name stands for. -/
def typeNamed? (name : String) : Option String :=
  if name == "IOError" || name == "EnvironmentError" then some "OSError"
  else if systemTypes.contains name || sourceTypes.contains name || otherTypes.contains name then
    some name
  else none

/-- A number that fits into a machine word with a sign. -/
def isIndex (n : Int) : Bool :=
  -0x8000000000000000 ≤ n && n < 0x8000000000000000

/-- Says that a value cannot stand for a whole number. -/
def notInteger (v : Value) : Exception :=
  ofMessage "TypeError" s!"'{v.typeName}' object cannot be interpreted as an integer"

/-- A number that is used as an index does not fit. -/
def indexOverflow (type : String) : Exception :=
  ofMessage type "cannot fit 'int' into an index-sized integer"

/-- An argument that is given, and is not nothing. -/
def given? : Option Value → Option Value
  | none | some .none => none
  | some v => some v

/-- An error of the operating system: a number, a text and paths. An operation that would block may
tell how much was written instead of a path. -/
def ofSystem (type : String) (args : List Value) : Except Exception Exception :=
  match args with
  | number :: reason :: rest =>
    if rest.length > 3 then .ok (plain type args)
    else
      let type :=
        if type = "OSError" then
          (number.index?.bind fun n => systemErrorTypes.lookup n).getD type
        else type
      let bare := { plain type args with wording := .system number reason [] }
      match given? rest[0]? with
      | none => .ok bare
      | some path =>
        match type, path with
        | "BlockingIOError", .bool _ => .ok bare
        | "BlockingIOError", .int n =>
          if isIndex n then .ok bare else .error (indexOverflow "ValueError")
        | "BlockingIOError", .float _ => .error (notInteger path)
        | _, _ =>
          let paths := path :: (given? rest[2]?).toList
          .ok { plain type [number, reason] with wording := .system number reason paths }
  | _ => .ok (plain type args)

/-- Says that a call has the wrong number of arguments. -/
def wrongCount (what : String) (bound : String) (count given : Nat) : Exception :=
  let plural := if count = 1 then "argument" else "arguments"
  ofMessage "TypeError" s!"{what} takes {bound} {count} {plural} ({given} given)"

/-- The parts of a place: the elements of a sequence. -/
def elements? : Value → Option (List Value)
  | .tuple vs | .list vs => some vs
  | .text s => some (s.toList.map fun c => .text (String.singleton c))
  | .dict es => some (es.map fun e => .text e.1)
  | _ => none

/-- A fault of a source text: a message and, as second argument, its place. -/
def ofSource (type : String) (args : List Value) : Except Exception Exception :=
  match args with
  | [_, info] =>
    match elements? info with
    | none => .error (ofMessage "TypeError" s!"'{info.typeName}' object is not iterable")
    | some parts =>
      match parts with
      | file :: line :: column :: text :: rest =>
        match rest with
        | [] => .ok { plain type args with place := some ⟨file, line, column, text, .none, .none⟩ }
        | [_] =>
          .error (ofMessage "TypeError" "end_offset must be provided when end_lineno is provided")
        | [endLine, endColumn] =>
          .ok { plain type args with place := some ⟨file, line, column, text, endLine, endColumn⟩ }
        | _ => .error (wrongCount "function" "at most" 6 parts.length)
      | _ => .error (wrongCount "function" "at least" 4 parts.length)
  | _ => .ok { plain type args with place := some ⟨.none, .none, .none, .none, .none, .none⟩ }

/-- The type of an argument; a missing one is called by its value. -/
def argumentType : Value → String
  | .none => "None"
  | v => v.typeName

/-- A group needs a message and a sequence of exceptions, and values are none. -/
def ofGroup (args : List Value) : Exception :=
  match args with
  | [message, members] =>
    match message with
    | .text _ =>
      match members with
      | .dict _ | .none | .bool _ | .int _ | .float _ =>
        ofMessage "TypeError" "second argument (exceptions) must be a sequence"
      | _ =>
        if members.isEmpty then
          ofMessage "ValueError" "second argument (exceptions) must be a non-empty sequence"
        else
          ofMessage "ValueError" "Item 0 of second argument (exceptions) is not an exception"
    | _ =>
      ofMessage "TypeError"
        s!"BaseExceptionGroup.__new__() argument 1 must be str, not {argumentType message}"
  | _ => wrongCount "BaseExceptionGroup.__new__()" "exactly" 2 args.length

/-- An argument that must be a text. -/
def textArgument (position : Nat) : Value → Except Exception String
  | .text s => .ok s
  | v =>
    .error (ofMessage "TypeError" s!"argument {position} must be str, not {argumentType v}")

/-- An argument that must be a whole number of the size of an index. -/
def indexArgument (v : Value) : Except Exception Int :=
  match v.index? with
  | some n =>
    if isIndex n then .ok n
    else .error (ofMessage "OverflowError" "Python int too large to convert to C ssize_t")
  | none => .error (notInteger v)

/-- Where in a text a fault of characters is, and which one it is if it is a single one. The number
of the last character wraps around. -/
def characterText (what text : String) (start stop : Int) (reason : String) : Option String :=
  if start < text.length ∧ stop = start + 1 then
    (if start < 0 then none else text.toList[start.toNat]?).map fun c =>
      s!"{what} character '{String.ofList (Text.escapeCode c.toNat)}' in position {start}: {reason}"
  else
    some s!"{what} characters in position {start}-{(stop - 1).bmod 0x10000000000000000}: {reason}"

/-- A fault of characters that cannot be encoded. -/
def ofEncoding (type : String) (args : List Value) : Except Exception Exception :=
  match args with
  | [encoding, text, start, stop, reason] => do
    let encoding ← textArgument 1 encoding
    let text ← textArgument 2 text
    let start ← indexArgument start
    let stop ← indexArgument stop
    let reason ← textArgument 5 reason
    let told := characterText s!"'{encoding}' codec can't encode" text start stop reason
    return { plain type args with wording := .fixed told }
  | _ => .error (wrongCount "function" "exactly" 5 args.length)

/-- A fault of bytes that cannot be decoded. No value is made of bytes. -/
def ofDecoding (args : List Value) : Except Exception Exception :=
  match args with
  | [encoding, bytes, start, stop, reason] => do
    let _ ← textArgument 1 encoding
    let _ ← indexArgument start
    let _ ← indexArgument stop
    let _ ← textArgument 5 reason
    throw (ofMessage "TypeError" s!"a bytes-like object is required, not '{bytes.typeName}'")
  | _ => .error (wrongCount "function" "exactly" 5 args.length)

/-- A fault of characters that cannot be translated. -/
def ofTranslation (type : String) (args : List Value) : Except Exception Exception :=
  match args with
  | [text, start, stop, reason] => do
    let text ← textArgument 1 text
    let start ← indexArgument start
    let stop ← indexArgument stop
    let reason ← textArgument 4 reason
    let told := characterText "can't translate" text start stop reason
    return { plain type args with wording := .fixed told }
  | _ => .error (wrongCount "function" "exactly" 4 args.length)

/-- Makes an exception of a named type, or the exception that making it raises. -/
def make (type : String) (args : List Value) : Except Exception Exception :=
  if systemTypes.contains type then ofSystem type args
  else if sourceTypes.contains type then ofSource type args
  else
    match type, args with
    | "KeyError", [key] => .ok { plain type args with wording := .key key }
    | "ExceptionGroup", _ | "BaseExceptionGroup", _ => .error (ofGroup args)
    | "UnicodeEncodeError", _ => ofEncoding type args
    | "UnicodeDecodeError", _ => ofDecoding args
    | "UnicodeTranslateError", _ => ofTranslation type args
    | _, _ => .ok (plain type args)

/-- What is raised with an exception of a named type: that one, or the one that making it raises. -/
def thrown (type : String) (args : List Value) : Exception :=
  match make type args with
  | .ok e | .error e => e

/-- An exception of a type that a program defines. The module is told unless it is the one that was
started. -/
def ofDefined (module name : String) (args : List Value) : Exception :=
  let told := module == "__main__" || module == "builtins"
  { plain (if told then name else s!"{module}.{name}") args with isDefined := true }

/-- Whether an exception is of a type of this name that is there from the start. -/
def isOf (e : Exception) (type : String) : Bool :=
  !e.isDefined && e.type == type

/-! ## Descriptions -/

end Exception

/-- What an exception says, if its values have texts. -/
def Wording.text? (room : Nat) (args : List Value) : Wording → Option String
  | .arguments =>
    match args with
    | [] => some ""
    | [v] => (v.printed room).toOption
    | vs => ((Value.tuple vs).shown room).toOption
  | .key v => (v.shown room).toOption
  | .system number reason paths => do
    let number ← (number.printed room).toOption
    let reason ← (reason.printed room).toOption
    let paths ← paths.mapM fun path => (path.shown room).toOption
    let about := if paths.isEmpty then "" else ": " ++ " -> ".intercalate paths
    return s!"[Errno {number}] {reason}{about}"
  | .fixed text => text

namespace Exception

/-- What an exception says, or that it cannot say it. -/
def text (e : Exception) (room : Nat) : String :=
  (e.wording.text? room e.args).getD "<exception str() failed>"

/-- The line that names an exception. -/
def finalLine (type text : String) : String :=
  if text.isEmpty then s!"{type}\n" else s!"{type}: {text}\n"

/-- A value as a part of a description. -/
def part (room : Nat) (v : Value) : Except Exception String :=
  (v.printed room).mapError ofShowError

/-- Says that there is no such operation with a value and a whole number. -/
def unsupported (operator : String) (v : Value) : Exception :=
  ofMessage "TypeError" s!"unsupported operand type(s) for {operator}: '{v.typeName}' and 'int'"

/-- The value after a number. -/
def next (v : Value) : Except Exception Value :=
  match v, v.index? with
  | _, some n => .ok (.int (n + 1))
  | .float x, _ => .ok (.float (x + 1.0))
  | .text _, _ | .list _, _ | .tuple _, _ =>
    .error (ofMessage "TypeError"
      s!"can only concatenate {v.typeName} (not \"int\") to {v.typeName}")
  | _, _ => .error (unsupported "+" v)

/-- A column of a line as an offset into what is left of it without its indentation. -/
def offset (indent : Nat) (column : Value) : Except Exception (Int ⊕ Float) :=
  match column, column.index? with
  | _, some n => .ok (.inl (n - 1 - indent))
  | .float x, _ => .ok (.inr (x - 1.0 - Float.ofNat indent))
  | _, _ => .error (unsupported "-" column)

/-- The column at which a mark ends. One that is missing or zero is that at which it begins, and the
mark is one character wide at least. -/
def markEnd (column endColumn : Value) : Except Exception Value :=
  match endColumn.unhashable? with
  | some type => .error (ofMessage "TypeError" s!"unhashable type: '{type}'")
  | none =>
    let isMissing := endColumn.equals .none || endColumn.equals (.int 0)
    let stop := if isMissing then column else endColumn
    let isSame := if isMissing then column.equalsItself else column.equals endColumn
    if isSame || stop.equals (.int (-1)) then next column else .ok stop

/-- The width of a mark between two offsets. -/
def markWidth (start : Int) : Int ⊕ Float → Except Exception Nat
  | .inl stop =>
    if isIndex (stop - start) then .ok (stop - start).toNat
    else .error (indexOverflow "OverflowError")
  | .inr _ =>
    if Decimal.magnitude (Decimal.toFloat start.toNat 0) = .infinite then
      .error (ofMessage "OverflowError" "int too large to convert to float")
    else .error (ofMessage "TypeError" "can't multiply sequence by non-int of type 'float'")

/-- The mark under a source line, after some of its characters. -/
def markText (line : List Char) (before width : Nat) : String :=
  let gap := (line.take before).map fun c => if Text.isBlank c then c else ' '
  "    " ++ String.ofList (gap ++ List.replicate width '^') ++ "\n"

/-- The mark under a source line, from its column on. -/
def markLine (line : List Char) (indent : Nat) (column endColumn : Value) :
    Except Exception String := do
  let stop ← markEnd column endColumn
  let start ← offset indent column
  let stop ← offset indent stop
  match start with
  | .inl n => if n < 0 then .ok "" else (markWidth n stop).map (markText line n.toNat)
  | .inr x =>
    if x ≥ 0.0 then
      .error (ofMessage "TypeError"
        "slice indices must be integers or None or have an __index__ method")
    else .ok ""

/-- The source line of a fault, with a mark under it. -/
def sourceLines (place : SourcePlace) : Except Exception String :=
  match place.text with
  | .none => .ok ""
  | .text s =>
    let line := (s.toList.reverse.dropWhile (· == '\n')).reverse
    let bare := line.dropWhile fun c => c == ' ' || c == '\n' || c == '\x0c'
    let shown := "    " ++ String.ofList bare ++ "\n"
    match place.column with
    | .none => .ok shown
    | column =>
      (markLine bare (line.length - bare.length) column place.endColumn).map (shown ++ ·)
  | v => .error (ofMessage "AttributeError" s!"'{v.typeName}' object has no attribute 'rstrip'")

/-- A line of a fault, if it is known. -/
def lineNumber (room : Nat) : Value → Except Exception (Option String)
  | .none => .ok none
  | line => (part room line).map some

/-- Where a fault is: its file and line stand before the source line, and a file alone stands at the
end. -/
def placeText (room : Nat) (file : Value) : Option String → Except Exception (String × String)
  | some line => do
    let file ← if file.isEmpty then .ok "<string>" else part room file
    return (s!"  File \"{file}\", line {line}\n", "")
  | none =>
    match file with
    | .none => .ok ("", "")
    | file => (part room file).map fun file => ("", s!" ({file})")

/-- What is wrong with a source text. -/
def sourceMessage (room : Nat) (args : List Value) : Except Exception String :=
  match args with
  | [] => .ok "<no detail available>"
  | message :: _ => if message.isEmpty then .ok "<no detail available>" else part room message

/-- A fault of a source text with its place. -/
def sourceText (room : Site → Nat) (e : Exception) (place : SourcePlace) :
    Except Exception String := do
  let line ← lineNumber (room .lines) place.line
  let _ ← lineNumber (room .lines) place.endLine
  let (before, after) ← placeText (room .description) place.file line
  let lines ← sourceLines place
  let message ← sourceMessage (room .description) e.args
  return before ++ lines ++ s!"{e.type}: {message}{after}\n"

/-- The description of an exception, without white space around it, or the exception that describing
it raises. -/
def describe (room : Site → Nat) (e : Exception) : Except Exception String := do
  let main ←
    match e.place with
    | some place => e.sourceText room place
    | none => .ok (finalLine e.type (e.text (room .wording)))
  let notes := e.notes.flatMap fun note =>
    (Text.pieces '\n' note.toList).map fun line => String.ofList line ++ "\n"
  return String.ofList (Text.trim (main ++ String.join notes).toList)

end Exception

end Playground.Host
