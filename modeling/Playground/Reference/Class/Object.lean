import Playground.Reference.Entry
import Playground.Reference.Operator

/-!
# Objects and classes

The classes that everything is built on, and those that have a single instance.
-/

namespace Playground.Reference

open Entry

/-- The class of everything. -/
def objectClass : ClassTable where
  name := "object"
  ancestors := []
  signature := "()"
  documentation := [
    "The base class of the class hierarchy.", "",
    "When called, it accepts no arguments and returns a new featureless",
    "instance that has no instance attributes and cannot be given any."]
  members := operators [
    "__delattr__", "__eq__", "__ge__", "__getattribute__", "__gt__", "__hash__", "__init__",
    "__le__", "__lt__", "__ne__", "__new__", "__repr__", "__setattr__", "__str__"] ++ [
    accessor "__class__",
    method "__dir__" "(self, /)" ["Default dir() implementation."],
    value "__doc__" "str",
    method "__format__" "(self, format_spec, /)" ["Default object formatter."],
    method "__getstate__" "(self, /)" ["Helper for pickle."],
    classMethod "__init_subclass__" none [
      "This method is called when a class is subclassed.", "",
      "The default implementation does nothing. It may be", "overridden to extend subclasses."],
    method "__reduce__" "(self, /)" ["Helper for pickle."],
    method "__reduce_ex__" "(self, protocol, /)" ["Helper for pickle."],
    method "__sizeof__" "(self, /)" ["Size of object in memory, in bytes."],
    classMethod "__subclasshook__" none [
      "Abstract classes can override this to customize issubclass().", "",
      "This is invoked early on by abc.ABCMeta.__subclasscheck__().",
      "It should return True, False or NotImplemented.  If it returns",
      "NotImplemented, the normal algorithm is used.  Otherwise, it",
      "overrides the normal algorithm (and the outcome is cached)."]]

/-- The class of classes. -/
def metaclassClass : ClassTable where
  name := "type"
  documentation := [
    "type(object) -> the object's type", "type(name, bases, dict, **kwds) -> a new type"]
  members := operators [
    "__call__", "__delattr__", "__getattribute__", "__init__", "__new__", "__or__", "__repr__",
    "__ror__", "__setattr__"] ++ [
    accessor "__abstractmethods__",
    accessor "__annotations__",
    field "__base__",
    accessor "__bases__",
    field "__basicsize__",
    accessor "__dict__",
    field "__dictoffset__",
    method "__dir__" "(self, /)" ["Specialized __dir__ implementation for types."],
    accessor "__doc__",
    field "__flags__",
    method "__instancecheck__" "(self, instance, /)" ["Check if an object is an instance."],
    field "__itemsize__",
    accessor "__module__",
    field "__mro__",
    accessor "__name__",
    classMethod "__prepare__" none [
      "__prepare__() -> dict", "used to create the namespace for the class statement"],
    accessor "__qualname__",
    method "__sizeof__" "(self, /)" ["Return memory consumption of the type object."],
    method "__subclasscheck__" "(self, subclass, /)" ["Check if a class is a subclass."],
    method "__subclasses__" "(self, /)" ["Return a list of immediate subclasses."],
    accessor "__text_signature__",
    field "__weakrefoffset__",
    method "mro" "(self, /)" ["Return a type's method resolution order."]]

/-- The class `super`. -/
def superClass : ClassTable where
  name := "super"
  documentation := [
    "super() -> same as super(__class__, <first argument>)", "super(type) -> unbound super object",
    "super(type, obj) -> bound super object; requires isinstance(obj, type)",
    "super(type, type2) -> bound super object; requires issubclass(type2, type)",
    "Typical use to call a cooperative superclass method:", "class C(B):",
    "    def meth(self, arg):", "        super().meth(arg)", "This works for class methods too:",
    "class C(B):", "    @classmethod", "    def cmeth(cls, arg):", "        super().cmeth(arg)"]
  members := operators ["__get__", "__getattribute__", "__init__", "__new__", "__repr__"] ++ [
    value "__doc__" "str",
    field "__self__",
    field "__self_class__",
    field "__thisclass__"]

/-- The class `property`. -/
def propertyClass : ClassTable where
  name := "property"
  signature := "(fget=None, fset=None, fdel=None, doc=None)"
  documentation := [
    "Property attribute.", "", "  fget", "    function to be used for getting an attribute value",
    "  fset", "    function to be used for setting an attribute value", "  fdel",
    "    function to be used for del'ing an attribute", "  doc", "    docstring", "",
    "Typical use is to define a managed attribute x:", "", "class C(object):",
    "    def getx(self): return self._x", "    def setx(self, value): self._x = value",
    "    def delx(self): del self._x",
    "    x = property(getx, setx, delx, \"I'm the 'x' property.\")", "",
    "Decorators make defining new properties or modifying existing ones easy:", "",
    "class C(object):", "    @property", "    def x(self):", "        \"I am the 'x' property.\"",
    "        return self._x", "    @x.setter", "    def x(self, value):",
    "        self._x = value", "    @x.deleter", "    def x(self):", "        del self._x"]
  members := operators [
    "__delete__", "__get__", "__getattribute__", "__init__", "__new__", "__set__"] ++ [
    field "__doc__",
    accessor "__isabstractmethod__",
    method "__set_name__" none ["Method to set name of a property."],
    method "deleter" none [
      "Descriptor to obtain a copy of the property with a different deleter."],
    field "fdel",
    field "fget",
    field "fset",
    method "getter" none ["Descriptor to obtain a copy of the property with a different getter."],
    method "setter" none ["Descriptor to obtain a copy of the property with a different setter."]]

/-- The class `staticmethod`. -/
def staticmethodClass : ClassTable where
  name := "staticmethod"
  documentation := [
    "staticmethod(function) -> method", "", "Convert a function to be a static method.", "",
    "A static method does not receive an implicit first argument.",
    "To declare a static method, use this idiom:", "", "     class C:", "         @staticmethod",
    "         def f(arg1, arg2, argN):", "             ...", "",
    "It can be called either on the class (e.g. C.f()) or on an instance",
    "(e.g. C().f()). Both the class and the instance are ignored, and",
    "neither is passed implicitly as the first argument to the method.", "",
    "Static methods in Python are similar to those found in Java or C++.",
    "For a more advanced concept, see the classmethod builtin."]
  members := operators ["__call__", "__get__", "__init__", "__new__", "__repr__"] ++ [
    accessor "__dict__",
    value "__doc__" "str",
    field "__func__",
    accessor "__isabstractmethod__",
    field "__wrapped__"]
  carried := [
    value "__annotations__" "dict",
    value "__doc__" "str",
    value "__module__" "str",
    value "__name__" "str",
    value "__qualname__" "str"]

/-- The class `classmethod`. -/
def classmethodClass : ClassTable where
  name := "classmethod"
  documentation := [
    "classmethod(function) -> method", "", "Convert a function to be a class method.", "",
    "A class method receives the class as implicit first argument,",
    "just like an instance method receives the instance.",
    "To declare a class method, use this idiom:", "", "  class C:", "      @classmethod",
    "      def f(cls, arg1, arg2, argN):", "          ...", "",
    "It can be called either on the class (e.g. C.f()) or on an instance",
    "(e.g. C().f()).  The instance is ignored except for its class.",
    "If a class method is called for a derived class, the derived class",
    "object is passed as the implied first argument.", "",
    "Class methods are different than C++ or Java static methods.",
    "If you want those, see the staticmethod builtin."]
  members := operators ["__get__", "__init__", "__new__", "__repr__"] ++ [
    accessor "__dict__",
    value "__doc__" "str",
    field "__func__",
    accessor "__isabstractmethod__",
    field "__wrapped__"]
  carried := [
    value "__annotations__" "dict",
    value "__doc__" "str",
    value "__module__" "str",
    value "__name__" "str",
    value "__qualname__" "str"]

/-- The class `module`. -/
def moduleClass : ClassTable where
  name := "module"
  signature := "(name, doc=None)"
  documentation := [
    "Create a module object.", "",
    "The name must be a string; the optional doc argument can have any type."]
  members := operators [
    "__delattr__", "__getattribute__", "__init__", "__new__", "__repr__", "__setattr__"] ++ [
    accessor "__annotations__",
    field "__dict__",
    method "__dir__" none ["__dir__() -> list", "specialized dir() implementation"],
    value "__doc__" "str"]

/-- The class `NoneType`. -/
def noneTypeClass : ClassTable where
  name := "NoneType"
  members := operators ["__bool__", "__new__", "__repr__"] ++ [
    value "__doc__" "NoneType"]

/-- The class `ellipsis`. -/
def ellipsisClass : ClassTable where
  name := "ellipsis"
  members := operators ["__getattribute__", "__new__", "__repr__"] ++ [
    value "__doc__" "NoneType",
    method "__reduce__" none ["Helper for pickle."]]

/-- The class `NotImplementedType`. -/
def notImplementedTypeClass : ClassTable where
  name := "NotImplementedType"
  members := operators ["__bool__", "__new__", "__repr__"] ++ [
    value "__doc__" "NoneType",
    method "__reduce__" none ["Helper for pickle."]]

/-- The classes that everything is built on. -/
def objectClasses : List ClassTable := [
  objectClass, metaclassClass, superClass, propertyClass, staticmethodClass, classmethodClass,
  moduleClass, noneTypeClass, ellipsisClass, notImplementedTypeClass]

end Playground.Reference
