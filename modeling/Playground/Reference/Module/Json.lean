import Playground.Reference.Entry

/-!
# Reading and writing JSON

The package for data in JSON, with its modules.
-/

namespace Playground.Reference

open Entry

/-- The module `json`. -/
def jsonModule : ModuleTable where
  name := "json"
  documentation := [
    "JSON (JavaScript Object Notation) <https:" ++ "//json.org> is a subset of",
    "JavaScript syntax (ECMA-262 3rd edition) used as a lightweight data", "interchange format.",
    "", ":mod:`json` exposes an API familiar to users of the standard library",
    ":mod:`marshal` and :mod:`pickle` modules.  It is derived from a",
    "version of the externally maintained simplejson library.", "",
    "Encoding basic Python object hierarchies::", "", "    >>> import json",
    "    >>> json.dumps(['foo', \x7b'bar': ('baz', None, 1.0, 2)\x7d])",
    "    '[\"foo\", \x7b\"bar\": [\"baz\", null, 1.0, 2]\x7d]'",
    "    >>> print(json.dumps(\"\\\"foo\\bar\"))", "    \"\\\"foo\\bar\"",
    "    >>> print(json.dumps('\\u1234'))", "    \"\\u1234\"", "    >>> print(json.dumps('\\\\'))",
    "    \"\\\\\"",
    "    >>> print(json.dumps(\x7b\"c\": 0, \"b\": 0, \"a\": 0\x7d, sort_keys=True))",
    "    \x7b\"a\": 0, \"b\": 0, \"c\": 0\x7d", "    >>> from io import StringIO",
    "    >>> io = StringIO()", "    >>> json.dump(['streaming API'], io)", "    >>> io.getvalue()",
    "    '[\"streaming API\"]'", "", "Compact encoding::", "", "    >>> import json",
    "    >>> mydict = \x7b'4': 5, '6': 7\x7d",
    "    >>> json.dumps([1,2,3,mydict], separators=(',', ':'))",
    "    '[1,2,3,\x7b\"4\":5,\"6\":7\x7d]'", "", "Pretty printing::", "", "    >>> import json",
    "    >>> print(json.dumps(\x7b'4': 5, '6': 7\x7d, sort_keys=True, indent=4))", "    \x7b",
    "        \"4\": 5,", "        \"6\": 7", "    \x7d", "", "Decoding JSON::", "",
    "    >>> import json", "    >>> obj = ['foo', \x7b'bar': ['baz', None, 1.0, 2]\x7d]",
    "    >>> json.loads('[\"foo\", \x7b\"bar\":[\"baz\", null, 1.0, 2]\x7d]') == obj", "    True",
    "    >>> json.loads('\"\\\\\"foo\\\\bar\"') == '\"foo\\x08ar'", "    True",
    "    >>> from io import StringIO", "    >>> io = StringIO('[\"streaming API\"]')",
    "    >>> json.load(io)[0] == 'streaming API'", "    True", "",
    "Specializing JSON object decoding::", "", "    >>> import json",
    "    >>> def as_complex(dct):", "    ...     if '__complex__' in dct:",
    "    ...         return complex(dct['real'], dct['imag'])", "    ...     return dct",
    "    ...", "    >>> json.loads('\x7b\"__complex__\": true, \"real\": 1, \"imag\": 2\x7d',",
    "    ...     object_hook=as_complex)", "    (1+2j)", "    >>> from decimal import Decimal",
    "    >>> json.loads('1.1', parse_float=Decimal) == Decimal('1.1')", "    True", "",
    "Specializing JSON object encoding::", "", "    >>> import json",
    "    >>> def encode_complex(obj):", "    ...     if isinstance(obj, complex):",
    "    ...         return [obj.real, obj.imag]",
    "    ...     raise TypeError(f'Object of type \x7bobj.__class__.__name__\x7d '",
    "    ...                     f'is not JSON serializable')", "    ...",
    "    >>> json.dumps(2 + 1j, default=encode_complex)", "    '[2.0, 1.0]'",
    "    >>> json.JSONEncoder(default=encode_complex).encode(2 + 1j)", "    '[2.0, 1.0]'",
    "    >>> ''.join(json.JSONEncoder(default=encode_complex).iterencode(2 + 1j))",
    "    '[2.0, 1.0]'", "", "", "Using json.tool from the shell to validate and pretty-print::",
    "", "    $ echo '\x7b\"json\":\"obj\"\x7d' | python -m json.tool", "    \x7b",
    "        \"json\": \"obj\"", "    \x7d", "    $ echo '\x7b 1.2:3.4\x7d' | python -m json.tool",
    "    Expecting property name enclosed in double quotes: line 1 column 3 (char 2)"]
  members := [
    classOf "JSONDecodeError" "json.JSONDecodeError",
    classOf "JSONDecoder" "json.JSONDecoder",
    classOf "JSONEncoder" "json.JSONEncoder",
    value "__all__" "list",
    value "__author__" "str",
    value "__builtins__" "dict",
    value "__cached__" "str",
    value "__doc__" "str",
    value "__file__" "str",
    value "__loader__" "SourceFileLoader",
    value "__name__" "str",
    value "__package__" "str",
    value "__path__" "list",
    value "__spec__" "ModuleSpec",
    value "__version__" "str",
    value "_default_decoder" "json.JSONDecoder",
    value "_default_encoder" "json.JSONEncoder",
    moduleOf "codecs" "codecs",
    moduleOf "decoder" "json.decoder",
    defined "detect_encoding" "(b)" [],
    defined "dump"
      ("(obj, fp, *, skipkeys=False, ensure_ascii=True, check_circular=True, " ++
      "allow_nan=True, cls=None, indent=None, separators=None, default=None, " ++
      "sort_keys=False, **kw)") [
      "Serialize ``obj`` as a JSON formatted stream to ``fp`` (a",
      "``.write()``-supporting file-like object).", "",
      "If ``skipkeys`` is true then ``dict`` keys that are not basic types",
      "(``str``, ``int``, ``float``, ``bool``, ``None``) will be skipped",
      "instead of raising a ``TypeError``.", "",
      "If ``ensure_ascii`` is false, then the strings written to ``fp`` can",
      "contain non-ASCII characters if they appear in strings contained in",
      "``obj``. Otherwise, all such characters are escaped in JSON strings.", "",
      "If ``check_circular`` is false, then the circular reference check",
      "for container types will be skipped and a circular reference will",
      "result in an ``RecursionError`` (or worse).", "",
      "If ``allow_nan`` is false, then it will be a ``ValueError`` to",
      "serialize out of range ``float`` values (``nan``, ``inf``, ``-inf``)",
      "in strict compliance of the JSON specification, instead of using the",
      "JavaScript equivalents (``NaN``, ``Infinity``, ``-Infinity``).", "",
      "If ``indent`` is a non-negative integer, then JSON array elements and",
      "object members will be pretty-printed with that indent level. An indent",
      "level of 0 will only insert newlines. ``None`` is the most compact", "representation.", "",
      "If specified, ``separators`` should be an ``(item_separator, key_separator)``",
      "tuple.  The default is ``(', ', ': ')`` if *indent* is ``None`` and",
      "``(',', ': ')`` otherwise.  To get the most compact JSON representation,",
      "you should specify ``(',', ':')`` to eliminate whitespace.", "",
      "``default(obj)`` is a function that should return a serializable version",
      "of obj or raise TypeError. The default simply raises TypeError.", "",
      "If *sort_keys* is true (default: ``False``), then the output of",
      "dictionaries will be sorted by key.", "",
      "To use a custom ``JSONEncoder`` subclass (e.g. one that overrides the",
      "``.default()`` method to serialize additional types), specify it with",
      "the ``cls`` kwarg; otherwise ``JSONEncoder`` is used."],
    defined "dumps"
      ("(obj, *, skipkeys=False, ensure_ascii=True, check_circular=True, allow_nan=True, " ++
      "cls=None, indent=None, separators=None, default=None, sort_keys=False, **kw)") [
      "Serialize ``obj`` to a JSON formatted ``str``.", "",
      "If ``skipkeys`` is true then ``dict`` keys that are not basic types",
      "(``str``, ``int``, ``float``, ``bool``, ``None``) will be skipped",
      "instead of raising a ``TypeError``.", "",
      "If ``ensure_ascii`` is false, then the return value can contain non-ASCII",
      "characters if they appear in strings contained in ``obj``. Otherwise, all",
      "such characters are escaped in JSON strings.", "",
      "If ``check_circular`` is false, then the circular reference check",
      "for container types will be skipped and a circular reference will",
      "result in an ``RecursionError`` (or worse).", "",
      "If ``allow_nan`` is false, then it will be a ``ValueError`` to",
      "serialize out of range ``float`` values (``nan``, ``inf``, ``-inf``) in",
      "strict compliance of the JSON specification, instead of using the",
      "JavaScript equivalents (``NaN``, ``Infinity``, ``-Infinity``).", "",
      "If ``indent`` is a non-negative integer, then JSON array elements and",
      "object members will be pretty-printed with that indent level. An indent",
      "level of 0 will only insert newlines. ``None`` is the most compact", "representation.", "",
      "If specified, ``separators`` should be an ``(item_separator, key_separator)``",
      "tuple.  The default is ``(', ', ': ')`` if *indent* is ``None`` and",
      "``(',', ': ')`` otherwise.  To get the most compact JSON representation,",
      "you should specify ``(',', ':')`` to eliminate whitespace.", "",
      "``default(obj)`` is a function that should return a serializable version",
      "of obj or raise TypeError. The default simply raises TypeError.", "",
      "If *sort_keys* is true (default: ``False``), then the output of",
      "dictionaries will be sorted by key.", "",
      "To use a custom ``JSONEncoder`` subclass (e.g. one that overrides the",
      "``.default()`` method to serialize additional types), specify it with",
      "the ``cls`` kwarg; otherwise ``JSONEncoder`` is used."],
    moduleOf "encoder" "json.encoder",
    defined "load"
      ("(fp, *, cls=None, object_hook=None, parse_float=None, parse_int=None, " ++
      "parse_constant=None, object_pairs_hook=None, **kw)") [
      "Deserialize ``fp`` (a ``.read()``-supporting file-like object containing",
      "a JSON document) to a Python object.", "",
      "``object_hook`` is an optional function that will be called with the",
      "result of any object literal decode (a ``dict``). The return value of",
      "``object_hook`` will be used instead of the ``dict``. This feature",
      "can be used to implement custom decoders (e.g. JSON-RPC class hinting).", "",
      "``object_pairs_hook`` is an optional function that will be called with the",
      "result of any object literal decoded with an ordered list of pairs.  The",
      "return value of ``object_pairs_hook`` will be used instead of the ``dict``.",
      "This feature can be used to implement custom decoders.  If ``object_hook``",
      "is also defined, the ``object_pairs_hook`` takes priority.", "",
      "To use a custom ``JSONDecoder`` subclass, specify it with the ``cls``",
      "kwarg; otherwise ``JSONDecoder`` is used."],
    defined "loads"
      ("(s, *, cls=None, object_hook=None, parse_float=None, parse_int=None, " ++
      "parse_constant=None, object_pairs_hook=None, **kw)") [
      "Deserialize ``s`` (a ``str``, ``bytes`` or ``bytearray`` instance",
      "containing a JSON document) to a Python object.", "",
      "``object_hook`` is an optional function that will be called with the",
      "result of any object literal decode (a ``dict``). The return value of",
      "``object_hook`` will be used instead of the ``dict``. This feature",
      "can be used to implement custom decoders (e.g. JSON-RPC class hinting).", "",
      "``object_pairs_hook`` is an optional function that will be called with the",
      "result of any object literal decoded with an ordered list of pairs.  The",
      "return value of ``object_pairs_hook`` will be used instead of the ``dict``.",
      "This feature can be used to implement custom decoders.  If ``object_hook``",
      "is also defined, the ``object_pairs_hook`` takes priority.", "",
      "``parse_float``, if specified, will be called with the string",
      "of every JSON float to be decoded. By default this is equivalent to",
      "float(num_str). This can be used to use another datatype or parser",
      "for JSON floats (e.g. decimal.Decimal).", "",
      "``parse_int``, if specified, will be called with the string",
      "of every JSON int to be decoded. By default this is equivalent to",
      "int(num_str). This can be used to use another datatype or parser",
      "for JSON integers (e.g. float).", "",
      "``parse_constant``, if specified, will be called with one of the",
      "following strings: -Infinity, Infinity, NaN.",
      "This can be used to raise an exception if invalid JSON numbers", "are encountered.", "",
      "To use a custom ``JSONDecoder`` subclass, specify it with the ``cls``",
      "kwarg; otherwise ``JSONDecoder`` is used."],
    moduleOf "scanner" "json.scanner"]

/-- The module `json.decoder`. -/
def jsonDecoderModule : ModuleTable where
  name := "json.decoder"
  documentation := ["Implementation of JSONDecoder"]
  members := [
    value "BACKSLASH" "dict",
    value "FLAGS" "RegexFlag",
    defined "JSONArray" none [],
    classOf "JSONDecodeError" "json.JSONDecodeError",
    classOf "JSONDecoder" "json.JSONDecoder",
    defined "JSONObject" none [],
    value "NaN" "float",
    value "NegInf" "float",
    value "PosInf" "float",
    value "STRINGCHUNK" "Pattern",
    value "WHITESPACE" "Pattern",
    value "WHITESPACE_STR" "str",
    value "_CONSTANTS" "dict",
    value "__all__" "list",
    value "__builtins__" "dict",
    value "__cached__" "str",
    value "__doc__" "str",
    value "__file__" "str",
    value "__loader__" "SourceFileLoader",
    value "__name__" "str",
    value "__package__" "str",
    value "__spec__" "ModuleSpec",
    defined "_decode_uXXXX" "(s, pos)" [],
    function "c_scanstring" none [
      "scanstring(string, end, strict=True) -> (string, end)", "",
      "Scan the string s for a JSON string. End is the index of the",
      "character in s after the quote that started the JSON string.",
      "Unescapes all valid JSON string escape sequences and raises ValueError",
      "on attempt to decode an invalid string. If strict is False then literal",
      "control characters are allowed in the string.", "",
      "Returns a tuple of the decoded string and the index of the character in s",
      "after the end quote."],
    defined "py_scanstring" none [
      "Scan the string s for a JSON string. End is the index of the",
      "character in s after the quote that started the JSON string.",
      "Unescapes all valid JSON string escape sequences and raises ValueError",
      "on attempt to decode an invalid string. If strict is False then literal",
      "control characters are allowed in the string.", "",
      "Returns a tuple of the decoded string and the index of the character in s",
      "after the end quote."],
    moduleOf "re" "re",
    moduleOf "scanner" "json.scanner",
    function "scanstring" none [
      "scanstring(string, end, strict=True) -> (string, end)", "",
      "Scan the string s for a JSON string. End is the index of the",
      "character in s after the quote that started the JSON string.",
      "Unescapes all valid JSON string escape sequences and raises ValueError",
      "on attempt to decode an invalid string. If strict is False then literal",
      "control characters are allowed in the string.", "",
      "Returns a tuple of the decoded string and the index of the character in s",
      "after the end quote."]]

/-- The module `json.encoder`. -/
def jsonEncoderModule : ModuleTable where
  name := "json.encoder"
  documentation := ["Implementation of JSONEncoder"]
  members := [
    value "ESCAPE" "Pattern",
    value "ESCAPE_ASCII" "Pattern",
    value "ESCAPE_DCT" "dict",
    value "HAS_UTF8" "Pattern",
    value "INFINITY" "float",
    classOf "JSONEncoder" "json.JSONEncoder",
    value "__builtins__" "dict",
    value "__cached__" "str",
    value "__doc__" "str",
    value "__file__" "str",
    value "__loader__" "SourceFileLoader",
    value "__name__" "str",
    value "__package__" "str",
    value "__spec__" "ModuleSpec",
    defined "_make_iterencode" none [],
    function "c_encode_basestring" none [
      "encode_basestring(string) -> string", "", "Return a JSON representation of a Python string"],
    function "c_encode_basestring_ascii" none [
      "encode_basestring_ascii(string) -> string", "",
      "Return an ASCII-only JSON representation of a Python string"],
    classOf "c_make_encoder" "_json.Encoder",
    function "encode_basestring" none [
      "encode_basestring(string) -> string", "", "Return a JSON representation of a Python string"],
    function "encode_basestring_ascii" none [
      "encode_basestring_ascii(string) -> string", "",
      "Return an ASCII-only JSON representation of a Python string"],
    value "i" "int",
    defined "py_encode_basestring" "(s)" [
      "Return a JSON representation of a Python string", "", "    "],
    defined "py_encode_basestring_ascii" "(s)" [
      "Return an ASCII-only JSON representation of a Python string", "", "    "],
    moduleOf "re" "re"]

/-- The module `json.scanner`. -/
def jsonScannerModule : ModuleTable where
  name := "json.scanner"
  documentation := ["JSON token scanner"]
  members := [
    value "NUMBER_RE" "Pattern",
    value "__all__" "list",
    value "__builtins__" "dict",
    value "__cached__" "str",
    value "__doc__" "str",
    value "__file__" "str",
    value "__loader__" "SourceFileLoader",
    value "__name__" "str",
    value "__package__" "str",
    value "__spec__" "ModuleSpec",
    classOf "c_make_scanner" "_json.Scanner",
    classOf "make_scanner" "_json.Scanner",
    defined "py_make_scanner" "(context)" [],
    moduleOf "re" "re"]

/-- The class `json.JSONDecoder`. -/
def jsonDecoderClass : ClassTable where
  name := "json.JSONDecoder"
  signature :=
    "(*, object_hook=None, parse_float=None, parse_int=None, parse_constant=None, " ++
    "strict=True, object_pairs_hook=None)"
  documentation := [
    "Simple JSON <https:" ++ "//json.org> decoder", "",
    "Performs the following translations in decoding by default:", "",
    "+---------------+-------------------+", "| JSON          | Python            |",
    "+===============+===================+", "| object        | dict              |",
    "+---------------+-------------------+", "| array         | list              |",
    "+---------------+-------------------+", "| string        | str               |",
    "+---------------+-------------------+", "| number (int)  | int               |",
    "+---------------+-------------------+", "| number (real) | float             |",
    "+---------------+-------------------+", "| true          | True              |",
    "+---------------+-------------------+", "| false         | False             |",
    "+---------------+-------------------+", "| null          | None              |",
    "+---------------+-------------------+", "",
    "It also understands ``NaN``, ``Infinity``, and ``-Infinity`` as",
    "their corresponding ``float`` values, which is outside the JSON spec."]
  members := [
    accessor "__dict__",
    value "__doc__" "str",
    defined "__init__"
      ("(self, *, object_hook=None, parse_float=None, parse_int=None, parse_constant=None, " ++
      "strict=True, object_pairs_hook=None)") [
      "``object_hook``, if specified, will be called with the result",
      "of every JSON object decoded and its return value will be used in",
      "place of the given ``dict``.  This can be used to provide custom",
      "deserializations (e.g. to support JSON-RPC class hinting).", "",
      "``object_pairs_hook``, if specified will be called with the result of",
      "every JSON object decoded with an ordered list of pairs.  The return",
      "value of ``object_pairs_hook`` will be used instead of the ``dict``.",
      "This feature can be used to implement custom decoders.",
      "If ``object_hook`` is also defined, the ``object_pairs_hook`` takes", "priority.", "",
      "``parse_float``, if specified, will be called with the string",
      "of every JSON float to be decoded. By default this is equivalent to",
      "float(num_str). This can be used to use another datatype or parser",
      "for JSON floats (e.g. decimal.Decimal).", "",
      "``parse_int``, if specified, will be called with the string",
      "of every JSON int to be decoded. By default this is equivalent to",
      "int(num_str). This can be used to use another datatype or parser",
      "for JSON integers (e.g. float).", "",
      "``parse_constant``, if specified, will be called with one of the",
      "following strings: -Infinity, Infinity, NaN.",
      "This can be used to raise an exception if invalid JSON numbers", "are encountered.", "",
      "If ``strict`` is false (true is the default), then control",
      "characters will be allowed inside strings.  Control characters in",
      "this context are those with character codes in the 0-31 range,",
      "including ``'\\t'`` (tab), ``'\\n'``, ``'\\r'`` and ``'\\0'``."],
    value "__module__" "str",
    accessor "__weakref__",
    defined "decode" none [
      "Return the Python representation of ``s`` (a ``str`` instance",
      "containing a JSON document)."],
    defined "raw_decode" "(self, s, idx=0)" [
      "Decode a JSON document from ``s`` (a ``str`` beginning with",
      "a JSON document) and return a 2-tuple of the Python",
      "representation and the index in ``s`` where the document ended.", "",
      "This can be used to decode a JSON document from a string that may",
      "have extraneous data at the end."]]

/-- The class `json.JSONEncoder`. -/
def jsonEncoderClass : ClassTable where
  name := "json.JSONEncoder"
  signature :=
    "(*, skipkeys=False, ensure_ascii=True, check_circular=True, allow_nan=True, " ++
    "sort_keys=False, indent=None, separators=None, default=None)"
  documentation := [
    "Extensible JSON <https:" ++ "//json.org> encoder for Python data structures.", "",
    "Supports the following objects and types by default:", "",
    "+-------------------+---------------+", "| Python            | JSON          |",
    "+===================+===============+", "| dict              | object        |",
    "+-------------------+---------------+", "| list, tuple       | array         |",
    "+-------------------+---------------+", "| str               | string        |",
    "+-------------------+---------------+", "| int, float        | number        |",
    "+-------------------+---------------+", "| True              | true          |",
    "+-------------------+---------------+", "| False             | false         |",
    "+-------------------+---------------+", "| None              | null          |",
    "+-------------------+---------------+", "",
    "To extend this to recognize other objects, subclass and implement a",
    "``.default()`` method with another method that returns a serializable",
    "object for ``o`` if possible, otherwise it should call the superclass",
    "implementation (to raise ``TypeError``)."]
  members := [
    accessor "__dict__",
    value "__doc__" "str",
    defined "__init__"
      ("(self, *, skipkeys=False, ensure_ascii=True, check_circular=True, allow_nan=True, " ++
      "sort_keys=False, indent=None, separators=None, default=None)") [
      "Constructor for JSONEncoder, with sensible defaults.", "",
      "If skipkeys is false, then it is a TypeError to attempt",
      "encoding of keys that are not str, int, float or None.  If",
      "skipkeys is True, such items are simply skipped.", "",
      "If ensure_ascii is true, the output is guaranteed to be str",
      "objects with all incoming non-ASCII characters escaped.  If",
      "ensure_ascii is false, the output can contain non-ASCII characters.", "",
      "If check_circular is true, then lists, dicts, and custom encoded",
      "objects will be checked for circular references during encoding to",
      "prevent an infinite recursion (which would cause an RecursionError).",
      "Otherwise, no such check takes place.", "",
      "If allow_nan is true, then NaN, Infinity, and -Infinity will be",
      "encoded as such.  This behavior is not JSON specification compliant,",
      "but is consistent with most JavaScript based encoders and decoders.",
      "Otherwise, it will be a ValueError to encode such floats.", "",
      "If sort_keys is true, then the output of dictionaries will be",
      "sorted by key; this is useful for regression tests to ensure",
      "that JSON serializations can be compared on a day-to-day basis.", "",
      "If indent is a non-negative integer, then JSON array",
      "elements and object members will be pretty-printed with that",
      "indent level.  An indent level of 0 will only insert newlines.",
      "None is the most compact representation.", "",
      "If specified, separators should be an (item_separator, key_separator)",
      "tuple.  The default is (', ', ': ') if *indent* is ``None`` and",
      "(',', ': ') otherwise.  To get the most compact JSON representation,",
      "you should specify (',', ':') to eliminate whitespace.", "",
      "If specified, default is a function that gets called for objects",
      "that can't otherwise be serialized.  It should return a JSON encodable",
      "version of the object or raise a ``TypeError``."],
    value "__module__" "str",
    accessor "__weakref__",
    defined "default" "(self, o)" [
      "Implement this method in a subclass such that it returns",
      "a serializable object for ``o``, or calls the base implementation",
      "(to raise a ``TypeError``).", "", "For example, to support arbitrary iterators, you could",
      "implement default like this::", "", "    def default(self, o):", "        try:",
      "            iterable = iter(o)", "        except TypeError:", "            pass",
      "        else:", "            return list(iterable)",
      "        # Let the base class default method raise the TypeError",
      "        return super().default(o)"],
    defined "encode" "(self, o)" [
      "Return a JSON string representation of a Python data structure.", "",
      ">>> from json.encoder import JSONEncoder",
      ">>> JSONEncoder().encode(\x7b\"foo\": [\"bar\", \"baz\"]\x7d)",
      "'\x7b\"foo\": [\"bar\", \"baz\"]\x7d'"],
    value "item_separator" "str",
    defined "iterencode" "(self, o, _one_shot=False)" [
      "Encode the given object and yield each string", "representation as available.", "",
      "For example::", "", "    for chunk in JSONEncoder().iterencode(bigobject):",
      "        mysocket.write(chunk)"],
    value "key_separator" "str"]

/-- The class `json.JSONDecodeError`. -/
def jsonDecodeErrorClass : ClassTable where
  name := "json.JSONDecodeError"
  ancestors := ["ValueError", "Exception", "BaseException", "object"]
  signature := "(msg, doc, pos)"
  documentation := [
    "Subclass of ValueError with the following additional properties:", "",
    "msg: The unformatted error message", "doc: The JSON document being parsed",
    "pos: The start index of doc where parsing failed", "lineno: The line corresponding to pos",
    "colno: The column corresponding to pos"]
  members := [
    value "__doc__" "str",
    defined "__init__" "(self, msg, doc, pos)" [
      "Initialize self.  See help(type(self)) for accurate signature."],
    value "__module__" "str",
    defined "__reduce__" "(self)" ["Helper for pickle."],
    accessor "__weakref__"]

/-- The modules of the package. -/
def jsonModules : List ModuleTable :=
  [jsonModule, jsonDecoderModule, jsonEncoderModule, jsonScannerModule]

/-- The classes of the package. -/
def jsonClasses : List ClassTable := [jsonDecoderClass, jsonEncoderClass, jsonDecodeErrorClass]

end Playground.Reference
