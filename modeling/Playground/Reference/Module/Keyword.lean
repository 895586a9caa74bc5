import Playground.Reference.Entry

/-!
# Keywords as a module

The module that tells keywords from names.
-/

namespace Playground.Reference

open Entry

/-- The module `keyword`. -/
def keywordModule : ModuleTable where
  name := "keyword"
  documentation := [
    "Keywords (from \"Grammar/python.gram\")", "",
    "This file is automatically generated; please don't muck it up!", "",
    "To update the symbols in this file, 'cd' to the top directory of",
    "the python source tree and run:", "",
    "    PYTHONPATH=Tools/peg_generator python3 -m pegen.keywordgen         " ++
    "Grammar/python.gram         Grammar/Tokens         Lib/keyword.py", "",
    "Alternatively, you can run 'make regen-keyword'."]
  members := [
    value "__all__" "list",
    value "__builtins__" "dict",
    value "__cached__" "str",
    value "__doc__" "str",
    value "__file__" "str",
    value "__loader__" "SourceFileLoader",
    value "__name__" "str",
    value "__package__" "str",
    value "__spec__" "ModuleSpec",
    function "iskeyword" none ["x.__contains__(y) <==> y in x."],
    function "issoftkeyword" none ["x.__contains__(y) <==> y in x."],
    value "kwlist" "list",
    value "softkwlist" "list"]

end Playground.Reference
