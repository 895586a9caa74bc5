import Playground.Reference.Entry

/-!
# Constants of text

The module of alphabets and templates.
-/

namespace Playground.Reference

open Entry

/-- The module `string`. -/
def stringModule : ModuleTable where
  name := "string"
  documentation := [
    "A collection of string constants.", "", "Public module variables:", "",
    "whitespace -- a string containing all ASCII whitespace",
    "ascii_lowercase -- a string containing all ASCII lowercase letters",
    "ascii_uppercase -- a string containing all ASCII uppercase letters",
    "ascii_letters -- a string containing all ASCII letters",
    "digits -- a string containing all ASCII decimal digits",
    "hexdigits -- a string containing all ASCII hexadecimal digits",
    "octdigits -- a string containing all ASCII octal digits",
    "punctuation -- a string containing all ASCII punctuation characters",
    "printable -- a string containing all ASCII characters considered printable"]
  members := [
    classOf "Formatter" "string.Formatter",
    classOf "Template" "string.Template",
    classOf "_ChainMap" "collections.ChainMap",
    value "__all__" "list",
    value "__builtins__" "dict",
    value "__cached__" "str",
    value "__doc__" "str",
    value "__file__" "str",
    value "__loader__" "SourceFileLoader",
    value "__name__" "str",
    value "__package__" "str",
    value "__spec__" "ModuleSpec",
    moduleOf "_re" "re",
    value "_sentinel_dict" "dict",
    moduleOf "_string" "_string",
    value "ascii_letters" "str",
    value "ascii_lowercase" "str",
    value "ascii_uppercase" "str",
    defined "capwords" "(s, sep=None)" [
      "capwords(s [,sep]) -> string", "",
      "Split the argument into words using split, capitalize each",
      "word using capitalize, and join the capitalized words using",
      "join.  If the optional second argument sep is absent or None,",
      "runs of whitespace characters are replaced by a single space",
      "and leading and trailing whitespace are removed, otherwise",
      "sep is used to split and join the words."],
    value "digits" "str",
    value "hexdigits" "str",
    value "octdigits" "str",
    value "printable" "str",
    value "punctuation" "str",
    value "whitespace" "str"]

/-- The class `string.Template`. -/
def templateClass : ClassTable where
  name := "string.Template"
  signature := "(template)"
  documentation := ["A string class for supporting $-substitutions."]
  members := [
    accessor "__dict__",
    value "__doc__" "str",
    defined "__init__" "(self, template)" [
      "Initialize self.  See help(type(self)) for accurate signature."],
    classMethodOf "__init_subclass__" "(cls)" [
      "This method is called when a class is subclassed.", "",
      "The default implementation does nothing. It may be", "overridden to extend subclasses."],
    value "__module__" "str",
    accessor "__weakref__",
    defined "_invalid" "(self, mo)" [],
    value "braceidpattern" "NoneType",
    value "delimiter" "str",
    value "flags" "RegexFlag",
    defined "get_identifiers" "(self)" [],
    value "idpattern" "str",
    defined "is_valid" "(self)" [],
    value "pattern" "Pattern",
    defined "safe_substitute" "(self, mapping=\x7b\x7d, /, **kws)" [],
    defined "substitute" "(self, mapping=\x7b\x7d, /, **kws)" []]

/-- The class `string.Formatter`. -/
def formatterClass : ClassTable where
  name := "string.Formatter"
  signature := "()"
  members := [
    accessor "__dict__",
    value "__doc__" "NoneType",
    value "__module__" "str",
    accessor "__weakref__",
    defined "_vformat"
      ("(self, format_string, args, kwargs, used_args, recursion_depth, auto_arg_index=0)") [],
    defined "check_unused_args" "(self, used_args, args, kwargs)" [],
    defined "convert_field" "(self, value, conversion)" [],
    defined "format" "(self, format_string, /, *args, **kwargs)" [],
    defined "format_field" "(self, value, format_spec)" [],
    defined "get_field" "(self, field_name, args, kwargs)" [],
    defined "get_value" "(self, key, args, kwargs)" [],
    defined "parse" "(self, format_string)" [],
    defined "vformat" "(self, format_string, args, kwargs)" []]

/-- The classes of the module. -/
def stringClasses : List ClassTable := [templateClass, formatterClass]

end Playground.Reference
