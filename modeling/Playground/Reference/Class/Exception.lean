import Playground.Reference.Entry
import Playground.Reference.Operator

/-!
# Exceptions

The classes of exceptions and warnings.
-/

namespace Playground.Reference

open Entry

/-- A class of exceptions that adds nothing to the ones it is derived from. -/
def plainException (name : String) (ancestors documentation operatorNames : List String) :
    ClassTable where
  name := name
  ancestors := ancestors
  documentation := documentation
  members := value "__doc__" "str" :: operators operatorNames

/-- A class of exceptions whose instances are made by that of its parent. -/
def derived (name : String) (ancestors documentation : List String) : ClassTable :=
  plainException name ancestors documentation ["__init__"]

/-- A class of exceptions that makes its instances. -/
def independent (name : String) (ancestors documentation : List String) : ClassTable :=
  plainException name ancestors documentation ["__init__", "__new__"]

/-- The class `AttributeError`. -/
def attributeErrorClass : ClassTable where
  name := "AttributeError"
  ancestors := ["Exception", "BaseException", "object"]
  documentation := ["Attribute not found."]
  members := operators ["__init__", "__str__"] ++ [
    value "__doc__" "str",
    field "name",
    field "obj"]

/-- The class `BaseException`. -/
def baseExceptionClass : ClassTable where
  name := "BaseException"
  documentation := ["Common base class for all exceptions"]
  members := operators [
    "__delattr__", "__getattribute__", "__init__", "__new__", "__repr__", "__setattr__", "__str__"]
    ++ [
    accessor "__cause__",
    accessor "__context__",
    accessor "__dict__",
    value "__doc__" "str",
    method "__reduce__" none ["Helper for pickle."],
    method "__setstate__" none [],
    field "__suppress_context__",
    accessor "__traceback__",
    method "add_note" none ["Exception.add_note(note) --", "add a note to the exception"],
    accessor "args",
    method "with_traceback" none [
      "Exception.with_traceback(tb) --", "set self.__traceback__ to tb and return self."]]

/-- The class `BaseExceptionGroup`. -/
def baseExceptionGroupClass : ClassTable where
  name := "BaseExceptionGroup"
  ancestors := ["BaseException", "object"]
  documentation := ["A combination of multiple unrelated exceptions."]
  members := operators ["__init__", "__new__", "__str__"] ++ [
    classMethod "__class_getitem__" none ["See PEP 585"],
    value "__doc__" "str",
    method "derive" none [],
    field "exceptions",
    field "message",
    method "split" none [],
    method "subgroup" none []]

/-- The class `ImportError`. -/
def importErrorClass : ClassTable where
  name := "ImportError"
  ancestors := ["Exception", "BaseException", "object"]
  documentation := ["Import can't find module, or can't find name in module."]
  members := operators ["__init__", "__str__"] ++ [
    value "__doc__" "str",
    method "__reduce__" none ["Helper for pickle."],
    field "msg",
    field "name",
    field "path"]

/-- The class `KeyError`. -/
def keyErrorClass : ClassTable where
  name := "KeyError"
  ancestors := ["LookupError", "Exception", "BaseException", "object"]
  documentation := ["Mapping key not found."]
  members := operators ["__init__", "__str__"] ++ [
    value "__doc__" "str"]

/-- The class `NameError`. -/
def nameErrorClass : ClassTable where
  name := "NameError"
  ancestors := ["Exception", "BaseException", "object"]
  documentation := ["Name not found globally."]
  members := operators ["__init__", "__str__"] ++ [
    value "__doc__" "str",
    field "name"]

/-- The class `OSError`. -/
def oSErrorClass : ClassTable where
  name := "OSError"
  ancestors := ["Exception", "BaseException", "object"]
  documentation := ["Base class for I/O related errors."]
  members := operators ["__init__", "__new__", "__str__"] ++ [
    value "__doc__" "str",
    method "__reduce__" none ["Helper for pickle."],
    accessor "characters_written",
    field "errno",
    field "filename",
    field "filename2",
    field "strerror"]

/-- The class `StopIteration`. -/
def stopIterationClass : ClassTable where
  name := "StopIteration"
  ancestors := ["Exception", "BaseException", "object"]
  documentation := ["Signal the end from iterator.__next__()."]
  members := operators ["__init__"] ++ [
    value "__doc__" "str",
    field "value"]

/-- The class `SyntaxError`. -/
def syntaxErrorClass : ClassTable where
  name := "SyntaxError"
  ancestors := ["Exception", "BaseException", "object"]
  documentation := ["Invalid syntax."]
  members := operators ["__init__", "__str__"] ++ [
    value "__doc__" "str",
    field "end_lineno",
    field "end_offset",
    field "filename",
    field "lineno",
    field "msg",
    field "offset",
    field "print_file_and_line",
    field "text"]

/-- The class `SystemExit`. -/
def systemExitClass : ClassTable where
  name := "SystemExit"
  ancestors := ["BaseException", "object"]
  documentation := ["Request to exit from the interpreter."]
  members := operators ["__init__"] ++ [
    value "__doc__" "str",
    field "code"]

/-- The class `UnicodeDecodeError`. -/
def unicodeDecodeErrorClass : ClassTable where
  name := "UnicodeDecodeError"
  ancestors := ["UnicodeError", "ValueError", "Exception", "BaseException", "object"]
  documentation := ["Unicode decoding error."]
  members := operators ["__init__", "__new__", "__str__"] ++ [
    value "__doc__" "str",
    field "encoding",
    field "end",
    field "object",
    field "reason",
    field "start"]

/-- The class `UnicodeEncodeError`. -/
def unicodeEncodeErrorClass : ClassTable where
  name := "UnicodeEncodeError"
  ancestors := ["UnicodeError", "ValueError", "Exception", "BaseException", "object"]
  documentation := ["Unicode encoding error."]
  members := operators ["__init__", "__new__", "__str__"] ++ [
    value "__doc__" "str",
    field "encoding",
    field "end",
    field "object",
    field "reason",
    field "start"]

/-- The class `UnicodeTranslateError`. -/
def unicodeTranslateErrorClass : ClassTable where
  name := "UnicodeTranslateError"
  ancestors := ["UnicodeError", "ValueError", "Exception", "BaseException", "object"]
  documentation := ["Unicode translation error."]
  members := operators ["__init__", "__new__", "__str__"] ++ [
    value "__doc__" "str",
    field "encoding",
    field "end",
    field "object",
    field "reason",
    field "start"]

/-- The class `ExceptionGroup`. -/
def exceptionGroupClass : ClassTable where
  name := "ExceptionGroup"
  ancestors := ["BaseExceptionGroup", "Exception", "BaseException", "object"]
  documentation := ["A combination of multiple unrelated exceptions."]
  members := [value "__doc__" "NoneType", value "__module__" "str", accessor "__weakref__"]

/-- The exceptions that add nothing to the ones they are derived from. -/
def plainExceptionClasses : List ClassTable := [
  independent "ArithmeticError" ["Exception", "BaseException", "object"]
    ["Base class for arithmetic errors."],
  independent "AssertionError" ["Exception", "BaseException", "object"] ["Assertion failed."],
  derived "BlockingIOError" ["OSError", "Exception", "BaseException", "object"]
    ["I/O operation would block."],
  derived "BrokenPipeError" ["ConnectionError", "OSError", "Exception", "BaseException", "object"]
    ["Broken pipe."],
  independent "BufferError" ["Exception", "BaseException", "object"] ["Buffer error."],
  independent "BytesWarning" ["Warning", "Exception", "BaseException", "object"]
    [
      "Base class for warnings about bytes and buffer related problems, mostly",
      "related to conversion from str or comparing to str."],
  derived "ChildProcessError" ["OSError", "Exception", "BaseException", "object"]
    ["Child process error."],
  derived "ConnectionAbortedError"
    ["ConnectionError", "OSError", "Exception", "BaseException", "object"]
    ["Connection aborted."],
  derived "ConnectionError" ["OSError", "Exception", "BaseException", "object"]
    ["Connection error."],
  derived "ConnectionRefusedError"
    ["ConnectionError", "OSError", "Exception", "BaseException", "object"]
    ["Connection refused."],
  derived "ConnectionResetError"
    ["ConnectionError", "OSError", "Exception", "BaseException", "object"]
    ["Connection reset."],
  independent "DeprecationWarning" ["Warning", "Exception", "BaseException", "object"]
    ["Base class for warnings about deprecated features."],
  independent "EOFError" ["Exception", "BaseException", "object"] ["Read beyond end of file."],
  independent "EncodingWarning" ["Warning", "Exception", "BaseException", "object"]
    ["Base class for warnings about encodings."],
  independent "Exception" ["BaseException", "object"]
    ["Common base class for all non-exit exceptions."],
  derived "FileExistsError" ["OSError", "Exception", "BaseException", "object"]
    ["File already exists."],
  derived "FileNotFoundError" ["OSError", "Exception", "BaseException", "object"]
    ["File not found."],
  independent "FloatingPointError" ["ArithmeticError", "Exception", "BaseException", "object"]
    ["Floating point operation failed."],
  independent "FutureWarning" ["Warning", "Exception", "BaseException", "object"]
    ["Base class for warnings about constructs that will change semantically", "in the future."],
  independent "GeneratorExit" ["BaseException", "object"] ["Request that a generator exit."],
  independent "ImportWarning" ["Warning", "Exception", "BaseException", "object"]
    ["Base class for warnings about probable mistakes in module imports"],
  derived "IndentationError" ["SyntaxError", "Exception", "BaseException", "object"]
    ["Improper indentation."],
  independent "IndexError" ["LookupError", "Exception", "BaseException", "object"]
    ["Sequence index out of range."],
  derived "InterruptedError" ["OSError", "Exception", "BaseException", "object"]
    ["Interrupted by signal."],
  derived "IsADirectoryError" ["OSError", "Exception", "BaseException", "object"]
    ["Operation doesn't work on directories."],
  independent "KeyboardInterrupt" ["BaseException", "object"] ["Program interrupted by user."],
  independent "LookupError" ["Exception", "BaseException", "object"]
    ["Base class for lookup errors."],
  independent "MemoryError" ["Exception", "BaseException", "object"] ["Out of memory."],
  derived "ModuleNotFoundError" ["ImportError", "Exception", "BaseException", "object"]
    ["Module not found."],
  derived "NotADirectoryError" ["OSError", "Exception", "BaseException", "object"]
    ["Operation only works on directories."],
  independent "NotImplementedError" ["RuntimeError", "Exception", "BaseException", "object"]
    ["Method or function hasn't been implemented yet."],
  independent "OverflowError" ["ArithmeticError", "Exception", "BaseException", "object"]
    ["Result too large to be represented."],
  independent "PendingDeprecationWarning" ["Warning", "Exception", "BaseException", "object"]
    ["Base class for warnings about features which will be deprecated", "in the future."],
  derived "PermissionError" ["OSError", "Exception", "BaseException", "object"]
    ["Not enough permissions."],
  derived "ProcessLookupError" ["OSError", "Exception", "BaseException", "object"]
    ["Process not found."],
  independent "RecursionError" ["RuntimeError", "Exception", "BaseException", "object"]
    ["Recursion limit exceeded."],
  independent "ReferenceError" ["Exception", "BaseException", "object"]
    ["Weak ref proxy used after referent went away."],
  independent "ResourceWarning" ["Warning", "Exception", "BaseException", "object"]
    ["Base class for warnings about resource usage."],
  independent "RuntimeError" ["Exception", "BaseException", "object"]
    ["Unspecified run-time error."],
  independent "RuntimeWarning" ["Warning", "Exception", "BaseException", "object"]
    ["Base class for warnings about dubious runtime behavior."],
  independent "StopAsyncIteration" ["Exception", "BaseException", "object"]
    ["Signal the end from iterator.__anext__()."],
  independent "SyntaxWarning" ["Warning", "Exception", "BaseException", "object"]
    ["Base class for warnings about dubious syntax."],
  independent "SystemError" ["Exception", "BaseException", "object"]
    [
      "Internal error in the Python interpreter.", "",
      "Please report this to the Python maintainer, along with the traceback,",
      "the Python version, and the hardware/OS platform and version."],
  derived "TabError" ["IndentationError", "SyntaxError", "Exception", "BaseException", "object"]
    ["Improper mixture of spaces and tabs."],
  derived "TimeoutError" ["OSError", "Exception", "BaseException", "object"] ["Timeout expired."],
  independent "TypeError" ["Exception", "BaseException", "object"] ["Inappropriate argument type."],
  derived "UnboundLocalError" ["NameError", "Exception", "BaseException", "object"]
    ["Local name referenced but not bound to a value."],
  independent "UnicodeError" ["ValueError", "Exception", "BaseException", "object"]
    ["Unicode related error."],
  independent "UnicodeWarning" ["Warning", "Exception", "BaseException", "object"]
    [
      "Base class for warnings about Unicode related problems, mostly",
      "related to conversion problems."],
  independent "UserWarning" ["Warning", "Exception", "BaseException", "object"]
    ["Base class for warnings generated by user code."],
  independent "ValueError" ["Exception", "BaseException", "object"]
    ["Inappropriate argument value (of correct type)."],
  independent "Warning" ["Exception", "BaseException", "object"]
    ["Base class for warning categories."],
  independent "ZeroDivisionError" ["ArithmeticError", "Exception", "BaseException", "object"]
    ["Second argument to a division or modulo operation was zero."]]

/-- The classes of exceptions. -/
def exceptionClasses : List ClassTable :=
  plainExceptionClasses ++ [
    attributeErrorClass, baseExceptionClass, baseExceptionGroupClass, importErrorClass,
    keyErrorClass, nameErrorClass, oSErrorClass, stopIterationClass, syntaxErrorClass,
    systemExitClass, unicodeDecodeErrorClass, unicodeEncodeErrorClass, unicodeTranslateErrorClass,
    exceptionGroupClass]

end Playground.Reference
