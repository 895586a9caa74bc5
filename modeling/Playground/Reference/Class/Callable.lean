import Playground.Reference.Entry
import Playground.Reference.Operator

/-!
# Functions and methods

The classes of functions, of methods, and of the descriptors that classes hold for the attributes of
their instances.
-/

namespace Playground.Reference

open Entry

/-- The class `builtin_function_or_method`. -/
def builtinFunctionClass : ClassTable where
  name := "builtin_function_or_method"
  signature := "()"
  members := operators [
    "__call__", "__eq__", "__ge__", "__getattribute__", "__gt__", "__hash__", "__le__", "__lt__",
    "__ne__", "__repr__"] ++ [
    accessor "__doc__",
    field "__module__",
    accessor "__name__",
    accessor "__qualname__",
    method "__reduce__" none ["Helper for pickle."],
    accessor "__self__",
    accessor "__text_signature__"]

/-- The class `function`. -/
def functionClass : ClassTable where
  name := "function"
  signature := "(code, globals, name=None, argdefs=None, closure=None)"
  documentation := [
    "Create a function object.", "", "code", "  a code object", "globals",
    "  the globals dictionary", "name", "  a string that overrides the name from the code object",
    "argdefs", "  a tuple that specifies the default argument values", "closure",
    "  a tuple that supplies the bindings for free variables"]
  members := operators ["__call__", "__get__", "__new__", "__repr__"] ++ [
    accessor "__annotations__",
    field "__builtins__",
    field "__closure__",
    accessor "__code__",
    accessor "__defaults__",
    accessor "__dict__",
    field "__doc__",
    field "__globals__",
    accessor "__kwdefaults__",
    field "__module__",
    accessor "__name__",
    accessor "__qualname__"]

/-- The class `method`. -/
def methodClass : ClassTable where
  name := "method"
  signature := "(function, instance, /)"
  documentation := ["Create a bound instance method object."]
  members := operators [
    "__call__", "__delattr__", "__eq__", "__ge__", "__getattribute__", "__gt__", "__hash__",
    "__le__", "__lt__", "__ne__", "__new__", "__repr__", "__setattr__"] ++ [
    accessor "__doc__",
    field "__func__",
    method "__reduce__" "(self, /)" ["Helper for pickle."],
    field "__self__"]

/-- The class `method-wrapper`. -/
def boundOperatorClass : ClassTable where
  name := "method-wrapper"
  signature := "()"
  members := operators [
    "__call__", "__eq__", "__ge__", "__getattribute__", "__gt__", "__hash__", "__le__", "__lt__",
    "__ne__", "__repr__"] ++ [
    accessor "__doc__",
    accessor "__name__",
    accessor "__objclass__",
    accessor "__qualname__",
    method "__reduce__" none ["Helper for pickle."],
    field "__self__",
    accessor "__text_signature__"]

/-- The class `method_descriptor`. -/
def methodDescriptorClass : ClassTable where
  name := "method_descriptor"
  signature := "()"
  members := operators ["__call__", "__get__", "__getattribute__", "__repr__"] ++ [
    accessor "__doc__",
    field "__name__",
    field "__objclass__",
    accessor "__qualname__",
    method "__reduce__" none ["Helper for pickle."],
    accessor "__text_signature__"]

/-- The class `wrapper_descriptor`. -/
def wrapperDescriptorClass : ClassTable where
  name := "wrapper_descriptor"
  signature := "()"
  members := operators ["__call__", "__get__", "__getattribute__", "__repr__"] ++ [
    accessor "__doc__",
    field "__name__",
    field "__objclass__",
    accessor "__qualname__",
    method "__reduce__" none ["Helper for pickle."],
    accessor "__text_signature__"]

/-- The class `classmethod_descriptor`. -/
def classMethodDescriptorClass : ClassTable where
  name := "classmethod_descriptor"
  signature := "()"
  members := operators ["__call__", "__get__", "__getattribute__", "__repr__"] ++ [
    accessor "__doc__",
    field "__name__",
    field "__objclass__",
    accessor "__qualname__",
    accessor "__text_signature__"]

/-- The class `getset_descriptor`. -/
def attributeDescriptorClass : ClassTable where
  name := "getset_descriptor"
  signature := "()"
  members := operators ["__delete__", "__get__", "__getattribute__", "__repr__", "__set__"] ++ [
    accessor "__doc__",
    field "__name__",
    field "__objclass__",
    accessor "__qualname__"]

/-- The class `member_descriptor`. -/
def fieldDescriptorClass : ClassTable where
  name := "member_descriptor"
  signature := "()"
  members := operators ["__delete__", "__get__", "__getattribute__", "__repr__", "__set__"] ++ [
    accessor "__doc__",
    field "__name__",
    field "__objclass__",
    accessor "__qualname__",
    method "__reduce__" none ["Helper for pickle."]]

/-- The classes of functions, methods and descriptors. -/
def callableClasses : List ClassTable := [
  builtinFunctionClass, functionClass, methodClass, boundOperatorClass, methodDescriptorClass,
  wrapperDescriptorClass, classMethodDescriptorClass, attributeDescriptorClass,
  fieldDescriptorClass]

end Playground.Reference
