import Playground.Reference.Entry

/-!
# Names of the language

The names that can be used without importing anything.
-/

namespace Playground.Reference

open Entry

/-- The names of the language, by their order in the alphabet. -/
def builtinMembers : Members := [
    classOf "ArithmeticError" "ArithmeticError",
    classOf "AssertionError" "AssertionError",
    classOf "AttributeError" "AttributeError",
    classOf "BaseException" "BaseException",
    classOf "BaseExceptionGroup" "BaseExceptionGroup",
    classOf "BlockingIOError" "BlockingIOError",
    classOf "BrokenPipeError" "BrokenPipeError",
    classOf "BufferError" "BufferError",
    classOf "BytesWarning" "BytesWarning",
    classOf "ChildProcessError" "ChildProcessError",
    classOf "ConnectionAbortedError" "ConnectionAbortedError",
    classOf "ConnectionError" "ConnectionError",
    classOf "ConnectionRefusedError" "ConnectionRefusedError",
    classOf "ConnectionResetError" "ConnectionResetError",
    classOf "DeprecationWarning" "DeprecationWarning",
    classOf "EOFError" "EOFError",
    value "Ellipsis" "ellipsis",
    classOf "EncodingWarning" "EncodingWarning",
    classOf "EnvironmentError" "OSError",
    classOf "Exception" "Exception",
    classOf "ExceptionGroup" "ExceptionGroup",
    value "False" "bool",
    classOf "FileExistsError" "FileExistsError",
    classOf "FileNotFoundError" "FileNotFoundError",
    classOf "FloatingPointError" "FloatingPointError",
    classOf "FutureWarning" "FutureWarning",
    classOf "GeneratorExit" "GeneratorExit",
    classOf "IOError" "OSError",
    classOf "ImportError" "ImportError",
    classOf "ImportWarning" "ImportWarning",
    classOf "IndentationError" "IndentationError",
    classOf "IndexError" "IndexError",
    classOf "InterruptedError" "InterruptedError",
    classOf "IsADirectoryError" "IsADirectoryError",
    classOf "KeyError" "KeyError",
    classOf "KeyboardInterrupt" "KeyboardInterrupt",
    classOf "LookupError" "LookupError",
    classOf "MemoryError" "MemoryError",
    classOf "ModuleNotFoundError" "ModuleNotFoundError",
    classOf "NameError" "NameError",
    value "None" "NoneType",
    classOf "NotADirectoryError" "NotADirectoryError",
    value "NotImplemented" "NotImplementedType",
    classOf "NotImplementedError" "NotImplementedError",
    classOf "OSError" "OSError",
    classOf "OverflowError" "OverflowError",
    classOf "PendingDeprecationWarning" "PendingDeprecationWarning",
    classOf "PermissionError" "PermissionError",
    classOf "ProcessLookupError" "ProcessLookupError",
    classOf "RecursionError" "RecursionError",
    classOf "ReferenceError" "ReferenceError",
    classOf "ResourceWarning" "ResourceWarning",
    classOf "RuntimeError" "RuntimeError",
    classOf "RuntimeWarning" "RuntimeWarning",
    classOf "StopAsyncIteration" "StopAsyncIteration",
    classOf "StopIteration" "StopIteration",
    classOf "SyntaxError" "SyntaxError",
    classOf "SyntaxWarning" "SyntaxWarning",
    classOf "SystemError" "SystemError",
    classOf "SystemExit" "SystemExit",
    classOf "TabError" "TabError",
    classOf "TimeoutError" "TimeoutError",
    value "True" "bool",
    classOf "TypeError" "TypeError",
    classOf "UnboundLocalError" "UnboundLocalError",
    classOf "UnicodeDecodeError" "UnicodeDecodeError",
    classOf "UnicodeEncodeError" "UnicodeEncodeError",
    classOf "UnicodeError" "UnicodeError",
    classOf "UnicodeTranslateError" "UnicodeTranslateError",
    classOf "UnicodeWarning" "UnicodeWarning",
    classOf "UserWarning" "UserWarning",
    classOf "ValueError" "ValueError",
    classOf "Warning" "Warning",
    classOf "ZeroDivisionError" "ZeroDivisionError",
    function "__build_class__" none [
      "__build_class__(func, name, /, *bases, [metaclass], **kwds) -> class", "",
      "Internal helper function used by the class statement."],
    value "__debug__" "bool",
    value "__doc__" "str",
    function "__import__" "(name, globals=None, locals=None, fromlist=(), level=0)" [
      "Import a module.", "", "Because this function is meant for use by the Python",
      "interpreter and not for general use, it is better to use",
      "importlib.import_module() to programmatically import a module.", "",
      "The globals argument is only used to determine the context;",
      "they are not modified.  The locals argument is unused.  The fromlist",
      "should be a list of names to emulate ``from name import ...``, or an",
      "empty list to emulate ``import name``.",
      "When importing a module from a package, note that __import__('A.B', ...)",
      "returns package A when fromlist is empty, but its submodule B when",
      "fromlist is not empty.  The level argument is used to determine whether to",
      "perform absolute or relative imports: 0 is absolute, while a positive number",
      "is the number of parent directories to search relative to the current module."],
    classOf "__loader__" "BuiltinImporter",
    value "__name__" "str",
    value "__package__" "str",
    value "__spec__" "ModuleSpec",
    function "abs" "(x, /)" ["Return the absolute value of the argument."],
    function "aiter" "(async_iterable, /)" [
      "Return an AsyncIterator for an AsyncIterable object."],
    function "all" "(iterable, /)" [
      "Return True if bool(x) is True for all values x in the iterable.", "",
      "If the iterable is empty, return True."],
    function "anext" none [
      "async anext(aiterator[, default])", "",
      "Return the next item from the async iterator.  If default is given and the async",
      "iterator is exhausted, it is returned instead of raising StopAsyncIteration."],
    function "any" "(iterable, /)" [
      "Return True if bool(x) is True for any x in the iterable.", "",
      "If the iterable is empty, return False."],
    function "ascii" "(obj, /)" [
      "Return an ASCII-only representation of an object.", "",
      "As repr(), return a string containing a printable representation of an",
      "object, but escape the non-ASCII characters in the string returned by",
      "repr() using \\\\x, \\\\u or \\\\U escapes. This generates a string similar",
      "to that returned by repr() in Python 2."],
    function "bin" "(number, /)" [
      "Return the binary representation of an integer.", "", ">>> bin(2796202)",
      "'0b1010101010101010101010'"],
    classOf "bool" "bool",
    function "breakpoint" none [
      "breakpoint(*args, **kws)", "",
      "Call sys.breakpointhook(*args, **kws).  sys.breakpointhook() must accept",
      "whatever arguments are passed.", "", "By default, this drops you into the pdb debugger."],
    classOf "bytearray" "bytearray",
    classOf "bytes" "bytes",
    function "callable" "(obj, /)" [
      "Return whether the object is callable (i.e., some kind of function).", "",
      "Note that classes are callable, as are instances of classes with a", "__call__() method."],
    function "chr" "(i, /)" [
      "Return a Unicode string of one character with ordinal i; 0 <= i <= 0x10ffff."],
    classOf "classmethod" "classmethod",
    function "compile"
      ("(source, filename, mode, flags=0, dont_inherit=False, optimize=-1, *, " ++
      "_feature_version=-1)") [
      "Compile source into a code object that can be executed by exec() or eval().", "",
      "The source code may represent a Python module, statement or expression.",
      "The filename will be used for run-time error messages.",
      "The mode must be 'exec' to compile a module, 'single' to compile a",
      "single (interactive) statement, or 'eval' to compile an expression.",
      "The flags argument, if present, controls which future statements influence",
      "the compilation of the code.",
      "The dont_inherit argument, if true, stops the compilation inheriting",
      "the effects of any future statements in effect in the code calling",
      "compile; if absent or false these statements do influence the compilation,",
      "in addition to any features explicitly specified."],
    classOf "complex" "complex",
    callable "copyright" "_Printer" "()",
    callable "credits" "_Printer" "()",
    function "delattr" "(obj, name, /)" [
      "Deletes the named attribute from the given object.", "",
      "delattr(x, 'y') is equivalent to ``del x.y``"],
    classOf "dict" "dict",
    function "dir" none [
      "dir([object]) -> list of strings", "",
      "If called without an argument, return the names in the current scope.",
      "Else, return an alphabetized list of names comprising (some of) the attributes",
      "of the given object, and of attributes reachable from it.",
      "If the object supplies a method named __dir__, it will be used; otherwise",
      "the default dir() logic is used and returns:",
      "  for a module object: the module's attributes.",
      "  for a class object:  its attributes, and recursively the attributes", "    of its bases.",
      "  for any other object: its attributes, its class's attributes, and",
      "    recursively the attributes of its class's base classes."],
    function "divmod" "(x, y, /)" ["Return the tuple (x//y, x%y).  Invariant: div*y + mod == x."],
    classOf "enumerate" "enumerate",
    function "eval" "(source, globals=None, locals=None, /)" [
      "Evaluate the given source in the context of globals and locals.", "",
      "The source may be a string representing a Python expression",
      "or a code object as returned by compile().",
      "The globals must be a dictionary and locals can be any mapping,",
      "defaulting to the current globals and locals.",
      "If only globals is given, locals defaults to it."],
    function "exec" "(source, globals=None, locals=None, /, *, closure=None)" [
      "Execute the given source in the context of globals and locals.", "",
      "The source may be a string representing one or more Python statements",
      "or a code object as returned by compile().",
      "The globals must be a dictionary and locals can be any mapping,",
      "defaulting to the current globals and locals.",
      "If only globals is given, locals defaults to it.",
      "The closure must be a tuple of cellvars, and can only be used",
      "when source is a code object requiring exactly that many cellvars."],
    callable "exit" "Quitter" "(code=None)",
    classOf "filter" "filter",
    classOf "float" "float",
    function "format" "(value, format_spec='', /)" [
      "Return value.__format__(format_spec)", "", "format_spec defaults to the empty string.",
      "See the Format Specification Mini-Language section of help('FORMATTING') for", "details."],
    classOf "frozenset" "frozenset",
    function "getattr" none [
      "getattr(object, name[, default]) -> value", "",
      "Get a named attribute from an object; getattr(x, 'y') is equivalent to x.y.",
      "When a default argument is given, it is returned when the attribute doesn't",
      "exist; without it, an exception is raised in that case."],
    function "globals" "()" [
      "Return the dictionary containing the current scope's global variables.", "",
      "NOTE: Updates to this dictionary *will* affect name lookups in the current",
      "global scope and vice-versa."],
    function "hasattr" "(obj, name, /)" [
      "Return whether the object has an attribute with the given name.", "",
      "This is done by calling getattr(obj, name) and catching AttributeError."],
    function "hash" "(obj, /)" [
      "Return the hash value for the given object.", "",
      "Two objects that compare equal must also have the same hash value, but the",
      "reverse is not necessarily true."],
    callable "help" "_Helper" "(*args, **kwds)",
    function "hex" "(number, /)" [
      "Return the hexadecimal representation of an integer.", "", ">>> hex(12648430)",
      "'0xc0ffee'"],
    function "id" "(obj, /)" [
      "Return the identity of an object.", "",
      "This is guaranteed to be unique among simultaneously existing objects.",
      "(CPython uses the object's memory address.)"],
    function "input" "(prompt='', /)" [
      "Read a string from standard input.  The trailing newline is stripped.", "",
      "The prompt string, if given, is printed to standard output without a",
      "trailing newline before reading input.", "",
      "If the user hits EOF (*nix: Ctrl-D, Windows: Ctrl-Z+Return), raise EOFError.",
      "On *nix systems, readline is used if available."],
    classOf "int" "int",
    function "isinstance" "(obj, class_or_tuple, /)" [
      "Return whether an object is an instance of a class or of a subclass thereof.", "",
      "A tuple, as in ``isinstance(x, (A, B, ...))``, may be given as the target to",
      "check against. This is equivalent to ``isinstance(x, A) or isinstance(x, B)",
      "or ...`` etc."],
    function "issubclass" "(cls, class_or_tuple, /)" [
      "Return whether 'cls' is derived from another class or is the same class.", "",
      "A tuple, as in ``issubclass(x, (A, B, ...))``, may be given as the target to",
      "check against. This is equivalent to ``issubclass(x, A) or issubclass(x, B)", "or ...``."],
    function "iter" none [
      "iter(iterable) -> iterator", "iter(callable, sentinel) -> iterator", "",
      "Get an iterator from an object.  In the first form, the argument must",
      "supply its own iterator, or be a sequence.",
      "In the second form, the callable is called until it returns the sentinel."],
    function "len" "(obj, /)" ["Return the number of items in a container."],
    callable "license" "_Printer" "()",
    classOf "list" "list",
    function "locals" "()" [
      "Return a dictionary containing the current scope's local variables.", "",
      "NOTE: Whether or not updates to this dictionary will affect name lookups in",
      "the local scope and vice-versa is *implementation dependent* and not",
      "covered by any backwards compatibility guarantees."],
    classOf "map" "map",
    function "max" none [
      "max(iterable, *[, default=obj, key=func]) -> value",
      "max(arg1, arg2, *args, *[, key=func]) -> value", "",
      "With a single iterable argument, return its biggest item. The",
      "default keyword-only argument specifies an object to return if",
      "the provided iterable is empty.",
      "With two or more arguments, return the largest argument."],
    classOf "memoryview" "memoryview",
    function "min" none [
      "min(iterable, *[, default=obj, key=func]) -> value",
      "min(arg1, arg2, *args, *[, key=func]) -> value", "",
      "With a single iterable argument, return its smallest item. The",
      "default keyword-only argument specifies an object to return if",
      "the provided iterable is empty.",
      "With two or more arguments, return the smallest argument."],
    function "next" none [
      "next(iterator[, default])", "",
      "Return the next item from the iterator. If default is given and the iterator",
      "is exhausted, it is returned instead of raising StopIteration."],
    classOf "object" "object",
    function "oct" "(number, /)" [
      "Return the octal representation of an integer.", "", ">>> oct(342391)", "'0o1234567'"],
    function "open"
      ("(file, mode='r', buffering=-1, encoding=None, errors=None, newline=None, " ++
      "closefd=True, opener=None)") [
      "Open file and return a stream.  Raise OSError upon failure.", "",
      "file is either a text or byte string giving the name (and the path",
      "if the file isn't in the current working directory) of the file to",
      "be opened or an integer file descriptor of the file to be",
      "wrapped. (If a file descriptor is given, it is closed when the",
      "returned I/O object is closed, unless closefd is set to False.)", "",
      "mode is an optional string that specifies the mode in which the file",
      "is opened. It defaults to 'r' which means open for reading in text",
      "mode.  Other common values are 'w' for writing (truncating the file if",
      "it already exists), 'x' for creating and writing to a new file, and",
      "'a' for appending (which on some Unix systems, means that all writes",
      "append to the end of the file regardless of the current seek position).",
      "In text mode, if encoding is not specified the encoding used is platform",
      "dependent: locale.getencoding() is called to get the current locale encoding.",
      "(For reading and writing raw bytes use binary mode and leave encoding",
      "unspecified.) The available modes are:", "",
      "========= ===============================================================",
      "Character Meaning",
      "--------- ---------------------------------------------------------------",
      "'r'       open for reading (default)",
      "'w'       open for writing, truncating the file first",
      "'x'       create a new file and open it for writing",
      "'a'       open for writing, appending to the end of the file if it exists",
      "'b'       binary mode", "'t'       text mode (default)",
      "'+'       open a disk file for updating (reading and writing)",
      "========= ===============================================================", "",
      "The default mode is 'rt' (open for reading text). For binary random",
      "access, the mode 'w+b' opens and truncates the file to 0 bytes, while",
      "'r+b' opens the file without truncation. The 'x' mode implies 'w' and",
      "raises an `FileExistsError` if the file already exists.", "",
      "Python distinguishes between files opened in binary and text modes,",
      "even when the underlying operating system doesn't. Files opened in",
      "binary mode (appending 'b' to the mode argument) return contents as",
      "bytes objects without any decoding. In text mode (the default, or when",
      "'t' is appended to the mode argument), the contents of the file are",
      "returned as strings, the bytes having been first decoded using a",
      "platform-dependent encoding or using the specified encoding if given.", "",
      "buffering is an optional integer used to set the buffering policy.",
      "Pass 0 to switch buffering off (only allowed in binary mode), 1 to select",
      "line buffering (only usable in text mode), and an integer > 1 to indicate",
      "the size of a fixed-size chunk buffer.  When no buffering argument is",
      "given, the default buffering policy works as follows:", "",
      "* Binary files are buffered in fixed-size chunks; the size of the buffer",
      "  is chosen using a heuristic trying to determine the underlying device's",
      "  \"block size\" and falling back on `io.DEFAULT_BUFFER_SIZE`.",
      "  On many systems, the buffer will typically be 4096 or 8192 bytes long.", "",
      "* \"Interactive\" text files (files for which isatty() returns True)",
      "  use line buffering.  Other text files use the policy described above",
      "  for binary files.", "",
      "encoding is the name of the encoding used to decode or encode the",
      "file. This should only be used in text mode. The default encoding is",
      "platform dependent, but any encoding supported by Python can be",
      "passed.  See the codecs module for the list of supported encodings.", "",
      "errors is an optional string that specifies how encoding errors are to",
      "be handled---this argument should not be used in binary mode. Pass",
      "'strict' to raise a ValueError exception if there is an encoding error",
      "(the default of None has the same effect), or pass 'ignore' to ignore",
      "errors. (Note that ignoring encoding errors can lead to data loss.)",
      "See the documentation for codecs.register or run 'help(codecs.Codec)'",
      "for a list of the permitted encoding error strings.", "",
      "newline controls how universal newlines works (it only applies to text",
      "mode). It can be None, '', '\\n', '\\r', and '\\r\\n'.  It works as", "follows:", "",
      "* On input, if newline is None, universal newlines mode is",
      "  enabled. Lines in the input can end in '\\n', '\\r', or '\\r\\n', and",
      "  these are translated into '\\n' before being returned to the",
      "  caller. If it is '', universal newline mode is enabled, but line",
      "  endings are returned to the caller untranslated. If it has any of",
      "  the other legal values, input lines are only terminated by the given",
      "  string, and the line ending is returned to the caller untranslated.", "",
      "* On output, if newline is None, any '\\n' characters written are",
      "  translated to the system default line separator, os.linesep. If",
      "  newline is '' or '\\n', no translation takes place. If newline is any",
      "  of the other legal values, any '\\n' characters written are translated",
      "  to the given string.", "",
      "If closefd is False, the underlying file descriptor will be kept open",
      "when the file is closed. This does not work when a file name is given",
      "and must be True in that case.", "",
      "A custom opener can be used by passing a callable as *opener*. The",
      "underlying file descriptor for the file object is then obtained by",
      "calling *opener* with (*file*, *flags*). *opener* must return an open",
      "file descriptor (passing os.open as *opener* results in functionality",
      "similar to passing None).", "",
      "open() returns a file object whose type depends on the mode, and",
      "through which the standard file operations such as reading and writing",
      "are performed. When open() is used to open a file in a text mode ('w',",
      "'r', 'wt', 'rt', etc.), it returns a TextIOWrapper. When used to open",
      "a file in a binary mode, the returned class varies: in read binary",
      "mode, it returns a BufferedReader; in write binary and append binary",
      "modes, it returns a BufferedWriter, and in read/write mode, it returns",
      "a BufferedRandom.", "",
      "It is also possible to use a string or bytearray as a file for both",
      "reading and writing. For strings StringIO can be used like a file",
      "opened in a text mode, and for bytes a BytesIO can be used like a file",
      "opened in a binary mode."],
    function "ord" "(c, /)" ["Return the Unicode code point for a one-character string."],
    function "pow" "(base, exp, mod=None)" [
      "Equivalent to base**exp with 2 arguments or base**exp % mod with 3 arguments", "",
      "Some types, such as ints, are able to use a more efficient algorithm when",
      "invoked using the three argument form."],
    function "print" "(*args, sep=' ', end='\\n', file=None, flush=False)" [
      "Prints the values to a stream, or to sys.stdout by default.", "", "sep",
      "  string inserted between values, default a space.", "end",
      "  string appended after the last value, default a newline.", "file",
      "  a file-like object (stream); defaults to the current sys.stdout.", "flush",
      "  whether to forcibly flush the stream."],
    classOf "property" "property",
    callable "quit" "Quitter" "(code=None)",
    classOf "range" "range",
    function "repr" "(obj, /)" [
      "Return the canonical string representation of the object.", "",
      "For many object types, including most builtins, eval(repr(obj)) == obj."],
    classOf "reversed" "reversed",
    function "round" "(number, ndigits=None)" [
      "Round a number to a given precision in decimal digits.", "",
      "The return value is an integer if ndigits is omitted or None.  Otherwise",
      "the return value has the same type as the number.  ndigits may be negative."],
    classOf "set" "set",
    function "setattr" "(obj, name, value, /)" [
      "Sets the named attribute on the given object to the specified value.", "",
      "setattr(x, 'y', v) is equivalent to ``x.y = v``"],
    classOf "slice" "slice",
    function "sorted" "(iterable, /, *, key=None, reverse=False)" [
      "Return a new list containing all items from the iterable in ascending order.", "",
      "A custom key function can be supplied to customize the sort order, and the",
      "reverse flag can be set to request the result in descending order."],
    classOf "staticmethod" "staticmethod",
    classOf "str" "str",
    function "sum" "(iterable, /, start=0)" [
      "Return the sum of a 'start' value (default: 0) plus an iterable of numbers", "",
      "When the iterable is empty, return the start value.",
      "This function is intended specifically for use with numeric values and may",
      "reject non-numeric types."],
    classOf "super" "super",
    classOf "tuple" "tuple",
    classOf "type" "type",
    function "vars" none [
      "vars([object]) -> dictionary", "", "Without arguments, equivalent to locals().",
      "With an argument, equivalent to object.__dict__."],
    classOf "zip" "zip"]

/-- Names that the language knows without listing them: what every module has. -/
def ambientMembers : Members := [
    value "__annotations__" "dict",
    classOf "__class__" "module",
    callable "__delattr__" "method-wrapper" "(name, /)",
    value "__dict__" "dict",
    function "__dir__" none ["__dir__() -> list", "specialized dir() implementation"],
    callable "__eq__" "method-wrapper" "(value, /)",
    function "__format__" "(format_spec, /)" ["Default object formatter."],
    callable "__ge__" "method-wrapper" "(value, /)",
    callable "__getattribute__" "method-wrapper" "(name, /)",
    function "__getstate__" "()" ["Helper for pickle."],
    callable "__gt__" "method-wrapper" "(value, /)",
    callable "__hash__" "method-wrapper" "()",
    callable "__init__" "method-wrapper" "(*args, **kwargs)",
    function "__init_subclass__" none [
      "This method is called when a class is subclassed.", "",
      "The default implementation does nothing. It may be", "overridden to extend subclasses."],
    callable "__le__" "method-wrapper" "(value, /)",
    callable "__lt__" "method-wrapper" "(value, /)",
    callable "__ne__" "method-wrapper" "(value, /)",
    function "__new__" "(*args, **kwargs)" [
      "Create and return a new object.  See help(type) for accurate signature."],
    function "__reduce__" "()" ["Helper for pickle."],
    function "__reduce_ex__" "(protocol, /)" ["Helper for pickle."],
    callable "__repr__" "method-wrapper" "()",
    callable "__setattr__" "method-wrapper" "(name, value, /)",
    function "__sizeof__" "()" ["Size of object in memory, in bytes."],
    callable "__str__" "method-wrapper" "()",
    function "__subclasshook__" none [
      "Abstract classes can override this to customize issubclass().", "",
      "This is invoked early on by abc.ABCMeta.__subclasscheck__().",
      "It should return True, False or NotImplemented.  If it returns",
      "NotImplemented, the normal algorithm is used.  Otherwise, it",
      "overrides the normal algorithm (and the outcome is cached)."]]

/-- The module of the names of the language. -/
def builtinsModule : ModuleTable where
  name := "builtins"
  documentation := [
    "Built-in functions, types, exceptions, and other objects.", "",
    "This module provides direct access to all 'built-in'",
    "identifiers of Python; for example, builtins.len is",
    "the full name for the built-in function len().", "",
    "This module is not normally accessed explicitly by most",
    "applications, but can be useful in modules that provide",
    "objects with the same name as a built-in value, but in",
    "which the built-in of that name is also needed."]
  members := builtinMembers

end Playground.Reference
