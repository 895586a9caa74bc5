import Playground.Reference.Entry
import Playground.Reference.Operator

/-!
# The system

The module of what a program shares with what runs it.
-/

namespace Playground.Reference

open Entry

/-- The module `sys`. -/
def sysModule : ModuleTable where
  name := "sys"
  documentation := [
    "This module provides access to some objects used or maintained by the",
    "interpreter and to functions that interact strongly with the interpreter.", "",
    "Dynamic objects:", "",
    "argv -- command line arguments; argv[0] is the script pathname if known",
    "path -- module search path; path[0] is the script directory, else ''",
    "modules -- dictionary of loaded modules", "",
    "displayhook -- called to show results in an interactive session",
    "excepthook -- called to handle any uncaught exception other than SystemExit",
    "  To customize printing in an interactive session or to install a custom",
    "  top-level exception handler, assign other functions to replace these.", "",
    "stdin -- standard input file object; used by input()",
    "stdout -- standard output file object; used by print()",
    "stderr -- standard error object; used for error messages",
    "  By assigning other file objects (or objects that behave like files)",
    "  to these, it is possible to redirect all of the interpreter's I/O.", "",
    "last_type -- type of last uncaught exception",
    "last_value -- value of last uncaught exception",
    "last_traceback -- traceback of last uncaught exception",
    "  These three are only available in an interactive session after a",
    "  traceback has been printed.", "", "Static objects:", "",
    "builtin_module_names -- tuple of module names built into this interpreter",
    "copyright -- copyright notice pertaining to this interpreter",
    "exec_prefix -- prefix used to find the machine-specific Python library",
    "executable -- absolute path of the executable binary of the Python interpreter",
    "float_info -- a named tuple with information about the float implementation.",
    "float_repr_style -- string indicating the style of repr() output for floats",
    "hash_info -- a named tuple with information about the hash algorithm.",
    "hexversion -- version information encoded as a single integer",
    "implementation -- Python implementation information.",
    "int_info -- a named tuple with information about the int implementation.",
    "maxsize -- the largest supported length of containers.",
    "maxunicode -- the value of the largest Unicode code point", "platform -- platform identifier",
    "prefix -- prefix used to find the Python library",
    "thread_info -- a named tuple with information about the thread implementation.",
    "version -- the version of this interpreter as a string",
    "version_info -- version information as a named tuple",
    "__stdin__ -- the original stdin; don't touch!",
    "__stdout__ -- the original stdout; don't touch!",
    "__stderr__ -- the original stderr; don't touch!",
    "__displayhook__ -- the original displayhook; don't touch!",
    "__excepthook__ -- the original excepthook; don't touch!", "", "Functions:", "",
    "displayhook() -- print an object to the screen, and save it in builtins._",
    "excepthook() -- print an exception and its traceback to sys.stderr",
    "exception() -- return the current thread's active exception",
    "exc_info() -- return information about the current thread's active exception",
    "exit() -- exit the interpreter by raising SystemExit",
    "getdlopenflags() -- returns flags to be used for dlopen() calls",
    "getprofile() -- get the global profiling function",
    "getrefcount() -- return the reference count for an object (plus one :-)",
    "getrecursionlimit() -- return the max recursion depth for the interpreter",
    "getsizeof() -- return the size of an object in bytes",
    "gettrace() -- get the global debug tracing function",
    "setdlopenflags() -- set the flags to be used for dlopen() calls",
    "setprofile() -- set the global profiling function",
    "setrecursionlimit() -- set the max recursion depth for the interpreter",
    "settrace() -- set the global debug tracing function"]
  members := [
    function "__breakpointhook__" none [
      "breakpointhook(*args, **kws)", "", "This hook function is called by built-in breakpoint()."],
    function "__displayhook__" "(object, /)" [
      "Print an object to sys.stdout and also save it in builtins._"],
    value "__doc__" "str",
    function "__excepthook__" "(exctype, value, traceback, /)" [
      "Handle an exception by displaying it with a traceback on sys.stderr."],
    defined "__interactivehook__" "()" [],
    classOf "__loader__" "BuiltinImporter",
    value "__name__" "str",
    value "__package__" "str",
    value "__spec__" "ModuleSpec",
    value "__stderr__" "TextIOWrapper",
    value "__stdin__" "TextIOWrapper",
    value "__stdout__" "TextIOWrapper",
    function "__unraisablehook__" "(unraisable, /)" [
      "Handle an unraisable exception.", "",
      "The unraisable argument has the following attributes:", "", "* exc_type: Exception type.",
      "* exc_value: Exception value, can be None.",
      "* exc_traceback: Exception traceback, can be None.",
      "* err_msg: Error message, can be None.",
      "* object: Object causing the exception, can be None."],
    value "_base_executable" "str",
    function "_clear_type_cache" "()" ["Clear the internal type lookup cache."],
    function "_current_exceptions" "()" [
      "Return a dict mapping each thread's identifier to its current raised exception.", "",
      "This function should be used for specialized purposes only."],
    function "_current_frames" "()" [
      "Return a dict mapping each thread's thread id to its current stack frame.", "",
      "This function should be used for specialized purposes only."],
    function "_debugmallocstats" "()" [
      "Print summary info to stderr about the state of pymalloc's structures.", "",
      "In Py_DEBUG mode, also perform some expensive internal consistency", "checks."],
    value "_framework" "str",
    function "_getframe" "(depth=0, /)" [
      "Return a frame object from the call stack.", "",
      "If optional integer depth is given, return the frame object that many",
      "calls below the top of the stack.  If that is deeper than the call",
      "stack, ValueError is raised.  The default for depth is zero, returning",
      "the frame at the top of the call stack.", "",
      "This function should be used for internal and specialized purposes", "only."],
    function "_getquickenedcount" "()" [],
    value "_git" "tuple",
    value "_home" "NoneType",
    value "_stdlib_dir" "str",
    value "_xoptions" "dict",
    value "abiflags" "str",
    function "addaudithook" "(hook)" ["Adds a new audit hook callback."],
    value "api_version" "int",
    value "argv" "list",
    function "audit" none [
      "audit(event, *args)", "", "Passes the event to any audit hooks that are attached."],
    value "base_exec_prefix" "str",
    value "base_prefix" "str",
    function "breakpointhook" none [
      "breakpointhook(*args, **kws)", "", "This hook function is called by built-in breakpoint()."],
    value "builtin_module_names" "tuple",
    value "byteorder" "str",
    function "call_tracing" "(func, args, /)" [
      "Call func(*args), while tracing is enabled.", "",
      "The tracing state is saved, and restored afterwards.  This is intended",
      "to be called from a debugger from a checkpoint, to recursively debug", "some other code."],
    value "copyright" "str",
    function "displayhook" "(object, /)" [
      "Print an object to sys.stdout and also save it in builtins._"],
    value "dont_write_bytecode" "bool",
    function "exc_info" "()" [
      "Return current exception information: (type, value, traceback).", "",
      "Return information about the most recent exception caught by an except",
      "clause in the current stack frame or in an older stack frame."],
    function "excepthook" "(exctype, value, traceback, /)" [
      "Handle an exception by displaying it with a traceback on sys.stderr."],
    function "exception" "()" [
      "Return the current exception.", "",
      "Return the most recent exception caught by an except clause",
      "in the current stack frame or in an older stack frame, or None",
      "if no such exception exists."],
    value "exec_prefix" "str",
    value "executable" "str",
    function "exit" "(status=None, /)" [
      "Exit the interpreter by raising SystemExit(status).", "",
      "If the status is omitted or None, it defaults to zero (i.e., success).",
      "If the status is an integer, it will be used as the system exit status.",
      "If it is another kind of object, it will be printed and the system",
      "exit status will be one (i.e., failure)."],
    value "flags" "sys.flags",
    value "float_info" "sys.float_info",
    value "float_repr_style" "str",
    function "get_asyncgen_hooks" "()" [
      "Return the installed asynchronous generators hooks.", "",
      "This returns a namedtuple of the form (firstiter, finalizer)."],
    function "get_coroutine_origin_tracking_depth" "()" [
      "Check status of origin tracking for coroutine objects in this thread."],
    function "get_int_max_str_digits" "()" [
      "Return the maximum string digits limit for non-binary int<->str conversions."],
    function "getallocatedblocks" "()" [
      "Return the number of memory blocks currently allocated."],
    function "getdefaultencoding" "()" [
      "Return the current default encoding used by the Unicode implementation."],
    function "getdlopenflags" "()" [
      "Return the current value of the flags that are used for dlopen calls.", "",
      "The flag constants are defined in the os module."],
    function "getfilesystemencodeerrors" "()" [
      "Return the error mode used Unicode to OS filename conversion."],
    function "getfilesystemencoding" "()" [
      "Return the encoding used to convert Unicode filenames to OS filenames."],
    function "getprofile" "()" [
      "Return the profiling function set with sys.setprofile.", "",
      "See the profiler chapter in the library manual."],
    function "getrecursionlimit" "()" [
      "Return the current value of the recursion limit.", "",
      "The recursion limit is the maximum depth of the Python interpreter",
      "stack.  This limit prevents infinite recursion from causing an overflow",
      "of the C stack and crashing Python."],
    function "getrefcount" "(object, /)" [
      "Return the reference count of object.", "",
      "The count returned is generally one higher than you might expect,",
      "because it includes the (temporary) reference as an argument to", "getrefcount()."],
    function "getsizeof" none [
      "getsizeof(object [, default]) -> int", "", "Return the size of object in bytes."],
    function "getswitchinterval" "()" [
      "Return the current thread switch interval; see sys.setswitchinterval()."],
    function "gettrace" "()" [
      "Return the global debug tracing function set with sys.settrace.", "",
      "See the debugger chapter in the library manual."],
    value "hash_info" "sys.hash_info",
    value "hexversion" "int",
    value "implementation" "types.SimpleNamespace",
    value "int_info" "sys.int_info",
    function "intern" "(string, /)" [
      "``Intern'' the given string.", "",
      "This enters the string in the (global) table of interned strings whose",
      "purpose is to speed up dictionary lookups. Return the string itself or",
      "the previously interned string object with the same value."],
    function "is_finalizing" "()" ["Return True if Python is exiting."],
    value "maxsize" "int",
    value "maxunicode" "int",
    value "meta_path" "list",
    value "modules" "dict",
    value "orig_argv" "list",
    value "path" "list",
    value "path_hooks" "list",
    value "path_importer_cache" "dict",
    value "platform" "str",
    value "platlibdir" "str",
    value "prefix" "str",
    value "pycache_prefix" "NoneType",
    function "set_asyncgen_hooks" none [
      "set_asyncgen_hooks([firstiter] [, finalizer])", "",
      "Set a finalizer for async generators objects."],
    function "set_coroutine_origin_tracking_depth" "(depth)" [
      "Enable or disable origin tracking for coroutine objects in this thread.", "",
      "Coroutine objects will track 'depth' frames of traceback information",
      "about where they came from, available in their cr_origin attribute.", "",
      "Set a depth of 0 to disable."],
    function "set_int_max_str_digits" "(maxdigits)" [
      "Set the maximum string digits limit for non-binary int<->str conversions."],
    function "setdlopenflags" "(flags, /)" [
      "Set the flags used by the interpreter for dlopen calls.", "",
      "This is used, for example, when the interpreter loads extension",
      "modules. Among other things, this will enable a lazy resolving of",
      "symbols when importing a module, if called as sys.setdlopenflags(0).",
      "To share symbols across extension modules, call as",
      "sys.setdlopenflags(os.RTLD_GLOBAL).  Symbolic names for the flag",
      "modules can be found in the os module (RTLD_xxx constants, e.g.", "os.RTLD_LAZY)."],
    function "setprofile" none [
      "setprofile(function)", "",
      "Set the profiling function.  It will be called on each function call",
      "and return.  See the profiler chapter in the library manual."],
    function "setrecursionlimit" "(limit, /)" [
      "Set the maximum depth of the Python interpreter stack to n.", "",
      "This limit prevents infinite recursion from causing an overflow of the C",
      "stack and crashing Python.  The highest possible limit is platform-", "dependent."],
    function "setswitchinterval" "(interval, /)" [
      "Set the ideal thread switching delay inside the Python interpreter.", "",
      "The actual frequency of switching threads can be lower if the",
      "interpreter executes long sequences of uninterruptible code",
      "(this is implementation-specific and workload-dependent).", "",
      "The parameter must represent the desired switching delay in seconds",
      "A typical value is 0.005 (5 milliseconds)."],
    function "settrace" none [
      "settrace(function)", "",
      "Set the global debug tracing function.  It will be called on each",
      "function call.  See the debugger chapter in the library manual."],
    value "stderr" "TextIOWrapper",
    value "stdin" "TextIOWrapper",
    value "stdlib_module_names" "frozenset",
    value "stdout" "TextIOWrapper",
    value "thread_info" "sys.thread_info",
    function "unraisablehook" "(unraisable, /)" [
      "Handle an unraisable exception.", "",
      "The unraisable argument has the following attributes:", "", "* exc_type: Exception type.",
      "* exc_value: Exception value, can be None.",
      "* exc_traceback: Exception traceback, can be None.",
      "* err_msg: Error message, can be None.",
      "* object: Object causing the exception, can be None."],
    value "version" "str",
    value "version_info" "sys.version_info",
    value "warnoptions" "list"]

/-- A class of tuples with named places. -/
def record (name : String) (documentation : List String) (creatable : Bool)
    (names : List String) : ClassTable where
  name := name
  ancestors := ["tuple", "object"]
  documentation := documentation
  members := operators (if creatable then ["__new__", "__repr__"] else ["__repr__"]) ++ [
    value "__doc__" "str",
    value "__match_args__" "tuple",
    method "__reduce__" none ["Helper for pickle."],
    value "n_fields" "int",
    value "n_sequence_fields" "int",
    value "n_unnamed_fields" "int"] ++ names.map field

/-- The class `sys.float_info`. -/
def floatInfoClass : ClassTable :=
  record "sys.float_info" [
    "sys.float_info", "",
    "A named tuple holding information about the float type. It contains low level",
    "information about the precision and internal representation. Please study",
    "your system's :file:`float.h` for more information."]
    true [
    "max", "max_exp", "max_10_exp", "min", "min_exp", "min_10_exp", "dig", "mant_dig", "epsilon",
    "radix", "rounds"]

/-- The class `sys.hash_info`. -/
def hashInfoClass : ClassTable :=
  record "sys.hash_info" [
    "hash_info", "", "A named tuple providing parameters used for computing",
    "hashes. The attributes are read only."]
    true [
    "width", "modulus", "inf", "nan", "imag", "algorithm", "hash_bits", "seed_bits", "cutoff"]

/-- The class `sys.int_info`. -/
def intInfoClass : ClassTable :=
  record "sys.int_info" [
    "sys.int_info", "", "A named tuple that holds information about Python's",
    "internal representation of integers.  The attributes are read only."]
    true [
    "bits_per_digit", "sizeof_digit", "default_max_str_digits", "str_digits_check_threshold"]

/-- The class `sys.thread_info`. -/
def threadInfoClass : ClassTable :=
  record "sys.thread_info" [
    "sys.thread_info", "", "A named tuple holding information about the thread implementation."]
    true [
    "name", "lock", "version"]

/-- The class `sys.flags`. -/
def flagsClass : ClassTable :=
  record "sys.flags" [
    "sys.flags", "", "Flags provided through command line arguments or environment vars."]
    false [
    "debug", "inspect", "interactive", "optimize", "dont_write_bytecode", "no_user_site",
    "no_site", "ignore_environment", "verbose", "bytes_warning", "quiet", "hash_randomization",
    "isolated", "dev_mode", "utf8_mode", "warn_default_encoding", "safe_path",
    "int_max_str_digits"]

/-- The class `sys.version_info`. -/
def versionInfoClass : ClassTable :=
  record "sys.version_info" [
    "sys.version_info", "", "Version information as a named tuple."]
    false [
    "major", "minor", "micro", "releaselevel", "serial"]

/-- The classes of the module. -/
def systemClasses : List ClassTable := [
  floatInfoClass, hashInfoClass, intInfoClass, threadInfoClass, flagsClass, versionInfoClass]

end Playground.Reference
