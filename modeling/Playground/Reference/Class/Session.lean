import Playground.Reference.Entry

/-!
# Sessions

The classes of the names that are there for someone who uses the language interactively, and
of those that find modules.
-/

namespace Playground.Reference

open Entry

/-- The class of what ends a session. -/
def quitterClass : ClassTable where
  name := "Quitter"
  signature := "(name, eof)"
  members := [
    defined "__call__" "(self, code=None)" [],
    accessor "__dict__",
    value "__doc__" "NoneType",
    defined "__init__" "(self, name, eof)" [
      "Initialize self.  See help(type(self)) for accurate signature."],
    value "__module__" "str",
    defined "__repr__" "(self)" ["Return repr(self)."],
    accessor "__weakref__"]
  carried := [
    value "eof" "str",
    value "name" "str"]

/-- The class of notices that are shown on request. -/
def noticeClass : ClassTable where
  name := "_Printer"
  signature := "(name, data, files=(), dirs=())"
  documentation := [
    "interactive prompt objects for printing the license text, a list of",
    "contributors and the copyright notice."]
  members := [
    value "MAXLINES" "int",
    defined "_Printer__setup" "(self)" [],
    defined "__call__" "(self)" [],
    accessor "__dict__",
    value "__doc__" "str",
    defined "__init__" "(self, name, data, files=(), dirs=())" [
      "Initialize self.  See help(type(self)) for accurate signature."],
    value "__module__" "str",
    defined "__repr__" "(self)" ["Return repr(self)."],
    accessor "__weakref__"]
  carried := [
    value "_Printer__data" "str",
    value "_Printer__filenames" "list",
    value "_Printer__lines" "NoneType",
    value "_Printer__name" "str"]

/-- The class of what gives help. -/
def helperClass : ClassTable where
  name := "_Helper"
  signature := "()"
  documentation := [
    "Define the builtin 'help'.", "",
    "This is a wrapper around pydoc.help that provides a helpful message",
    "when 'help' is typed at the Python interactive prompt.", "",
    "Calling help() at the Python prompt starts an interactive help session.",
    "Calling help(thing) prints help for the python object 'thing'."]
  members := [
    defined "__call__" "(self, *args, **kwds)" [],
    accessor "__dict__",
    value "__doc__" "str",
    value "__module__" "str",
    defined "__repr__" "(self)" ["Return repr(self)."],
    accessor "__weakref__"]

/-- The class that finds the modules of the language. -/
def builtinImporterClass : ClassTable where
  name := "BuiltinImporter"
  signature := "()"
  documentation := [
    "Meta path import for built-in modules.", "",
    "All methods are either class or static methods to avoid the need to",
    "instantiate the class."]
  members := [
    value "_ORIGIN" "str",
    accessor "__dict__",
    value "__doc__" "str",
    value "__module__" "str",
    accessor "__weakref__",
    staticMethod "create_module" "(spec)" ["Create a built-in module"],
    staticMethod "exec_module" "(module)" ["Exec a built-in module"],
    classMethodOf "find_module" "(cls, fullname, path=None)" [
      "Find the built-in module.", "",
      "If 'path' is ever specified then the search is considered a failure.", "",
      "This method is deprecated.  Use find_spec() instead."],
    classMethodOf "find_spec" "(cls, fullname, path=None, target=None)" [],
    classMethodOf "get_code" "(cls, fullname)" [
      "Return None as built-in modules do not have code objects."],
    classMethodOf "get_source" "(cls, fullname)" [
      "Return None as built-in modules do not have source code."],
    classMethodOf "is_package" "(cls, fullname)" [
      "Return False as built-in modules are never packages."],
    classMethodOf "load_module" "(self, fullname)" [
      "Load the specified module into sys.modules and return it.", "",
      "This method is deprecated.  Use loader.exec_module() instead."],
    staticMethod "module_repr" "(module)" [
      "Return repr for the module.", "",
      "The method is deprecated.  The import machinery does the job itself."]]

/-- The class that finds the modules that come with the language. -/
def frozenImporterClass : ClassTable where
  name := "FrozenImporter"
  signature := "()"
  documentation := [
    "Meta path import for frozen modules.", "",
    "All methods are either class or static methods to avoid the need to",
    "instantiate the class."]
  members := [
    value "_ORIGIN" "str",
    accessor "__dict__",
    value "__doc__" "str",
    value "__module__" "str",
    accessor "__weakref__",
    classMethodOf "_fix_up_module" "(cls, module)" [],
    classMethodOf "_resolve_filename" "(cls, fullname, alias=None, ispkg=False)" [],
    staticMethod "create_module" "(spec)" ["Set __file__, if able."],
    staticMethod "exec_module" "(module)" [],
    classMethodOf "find_module" "(cls, fullname, path=None)" [
      "Find a frozen module.", "", "This method is deprecated.  Use find_spec() instead."],
    classMethodOf "find_spec" "(cls, fullname, path=None, target=None)" [],
    classMethodOf "get_code" "(cls, fullname)" ["Return the code object for the frozen module."],
    classMethodOf "get_source" "(cls, fullname)" [
      "Return None as frozen modules do not have source code."],
    classMethodOf "is_package" "(cls, fullname)" [
      "Return True if the frozen module is a package."],
    classMethodOf "load_module" "(self, fullname)" [
      "Load the specified module into sys.modules and return it.", "",
      "This method is deprecated.  Use loader.exec_module() instead."],
    staticMethod "module_repr" "(m)" [
      "Return repr for the module.", "",
      "The method is deprecated.  The import machinery does the job itself."]]

/-- The classes of the things in a session that have no other use. -/
def sessionClasses : List ClassTable := [
  quitterClass, noticeClass, helperClass, builtinImporterClass, frozenImporterClass]

end Playground.Reference
