import Playground.Reference.Basic

/-!
# Entries of tables

The kinds of attribute that classes and modules have, by the classes that the attributes are
instances of. A routine without a signature is one whose parameters are not known.
-/

namespace Playground.Reference.Entry

/-- A class. -/
def classOf (name key : String) : String × Entity :=
  (name, .classOf key)

/-- A module. -/
def moduleOf (name key : String) : String × Entity :=
  (name, .module key)

/-- A value of a class. -/
def value (name type : String) : String × Entity :=
  (name, .value type none)

/-- An attribute that the language computes or stores for instances. -/
def accessor (name : String) : String × Entity :=
  value name "getset_descriptor"

/-- An attribute that instances store in a fixed place. -/
def field (name : String) : String × Entity :=
  value name "member_descriptor"

/-- A property. -/
def computed (name : String) : String × Entity :=
  (name, .property)

/-- A method of the instances of a class of the language. -/
def method (name : String) (signature : Option String) (documentation : List String) :
    String × Entity :=
  (name, .routine "method_descriptor" signature documentation)

/-- A method of a class of the language itself. -/
def classMethod (name : String) (signature : Option String) (documentation : List String) :
    String × Entity :=
  (name, .routine "classmethod_descriptor" signature documentation)

/-- A method that needs neither a class nor an instance. -/
def staticMethod (name : String) (signature : Option String) (documentation : List String) :
    String × Entity :=
  (name, .routine "staticmethod" signature documentation)

/-- A function of the language. -/
def function (name : String) (signature : Option String) (documentation : List String) :
    String × Entity :=
  (name, .routine "builtin_function_or_method" signature documentation)

/-- A function, or a method of instances, that is written in the language. -/
def defined (name : String) (signature : Option String) (documentation : List String) :
    String × Entity :=
  (name, .routine "function" signature documentation)

/-- A method of a class that is written in the language. -/
def classMethodOf (name : String) (signature : Option String) (documentation : List String) :
    String × Entity :=
  (name, .routine "classmethod" signature documentation)

/-- A value that can be called. -/
def callable (name type signature : String) : String × Entity :=
  (name, .value type (some signature))

end Playground.Reference.Entry
