import Playground.Reference.Entry

/-!
# Operators

What the syntax of the language calls: the operators and their reflected forms, comparisons,
indexing, iteration, and whatever else a class of the language can give a meaning to. They have the
same signature and documentation in all classes.
-/

namespace Playground.Reference

open Entry

/-- An operator of the instances of a class. -/
def operator (name : String) (signature : Option String) (documentation : List String) :
    String × Entity :=
  (name, .routine "wrapper_descriptor" signature documentation)

/-- All operators, and the creation of instances. -/
def allOperators : Members := [
    function "__new__" "(*args, **kwargs)" [
      "Create and return a new object.  See help(type) for accurate signature."],
    operator "__abs__" "(self, /)" ["abs(self)"],
    operator "__add__" "(self, value, /)" ["Return self+value."],
    operator "__aiter__" "(self, /)" [
      "Return an awaitable, that resolves in asynchronous iterator."],
    operator "__and__" "(self, value, /)" ["Return self&value."],
    operator "__anext__" "(self, /)" ["Return a value or raise StopAsyncIteration."],
    operator "__await__" "(self, /)" ["Return an iterator to be used in await expression."],
    operator "__bool__" "(self, /)" ["True if self else False"],
    operator "__call__" "(self, /, *args, **kwargs)" ["Call self as a function."],
    operator "__contains__" "(self, key, /)" ["Return key in self."],
    operator "__del__" none [],
    operator "__delattr__" "(self, name, /)" ["Implement delattr(self, name)."],
    operator "__delete__" "(self, instance, /)" ["Delete an attribute of instance."],
    operator "__delitem__" "(self, key, /)" ["Delete self[key]."],
    operator "__divmod__" "(self, value, /)" ["Return divmod(self, value)."],
    operator "__eq__" "(self, value, /)" ["Return self==value."],
    operator "__float__" "(self, /)" ["float(self)"],
    operator "__floordiv__" "(self, value, /)" ["Return self//value."],
    operator "__ge__" "(self, value, /)" ["Return self>=value."],
    operator "__get__" "(self, instance, owner=None, /)" [
      "Return an attribute of instance, which is of type owner."],
    operator "__getattribute__" "(self, name, /)" ["Return getattr(self, name)."],
    operator "__getitem__" "(self, key, /)" ["Return self[key]."],
    operator "__gt__" "(self, value, /)" ["Return self>value."],
    operator "__hash__" "(self, /)" ["Return hash(self)."],
    operator "__iadd__" "(self, value, /)" ["Implement self+=value."],
    operator "__iand__" "(self, value, /)" ["Return self&=value."],
    operator "__ifloordiv__" "(self, value, /)" ["Return self//=value."],
    operator "__ilshift__" "(self, value, /)" ["Return self<<=value."],
    operator "__imatmul__" "(self, value, /)" ["Return self@=value."],
    operator "__imod__" "(self, value, /)" ["Return self%=value."],
    operator "__imul__" "(self, value, /)" ["Implement self*=value."],
    operator "__index__" "(self, /)" [
      "Return self converted to an integer, if self is suitable for use as an index into a list."],
    operator "__init__" "(self, /, *args, **kwargs)" [
      "Initialize self.  See help(type(self)) for accurate signature."],
    operator "__int__" "(self, /)" ["int(self)"],
    operator "__invert__" "(self, /)" ["~self"],
    operator "__ior__" "(self, value, /)" ["Return self|=value."],
    operator "__ipow__" "(self, value, /)" ["Return self**=value."],
    operator "__irshift__" "(self, value, /)" ["Return self>>=value."],
    operator "__isub__" "(self, value, /)" ["Return self-=value."],
    operator "__iter__" "(self, /)" ["Implement iter(self)."],
    operator "__itruediv__" "(self, value, /)" ["Return self/=value."],
    operator "__ixor__" "(self, value, /)" ["Return self^=value."],
    operator "__le__" "(self, value, /)" ["Return self<=value."],
    operator "__len__" "(self, /)" ["Return len(self)."],
    operator "__lshift__" "(self, value, /)" ["Return self<<value."],
    operator "__lt__" "(self, value, /)" ["Return self<value."],
    operator "__matmul__" "(self, value, /)" ["Return self@value."],
    operator "__mod__" "(self, value, /)" ["Return self%value."],
    operator "__mul__" "(self, value, /)" ["Return self*value."],
    operator "__ne__" "(self, value, /)" ["Return self!=value."],
    operator "__neg__" "(self, /)" ["-self"],
    operator "__next__" "(self, /)" ["Implement next(self)."],
    operator "__or__" "(self, value, /)" ["Return self|value."],
    operator "__pos__" "(self, /)" ["+self"],
    operator "__pow__" "(self, value, mod=None, /)" ["Return pow(self, value, mod)."],
    operator "__radd__" "(self, value, /)" ["Return value+self."],
    operator "__rand__" "(self, value, /)" ["Return value&self."],
    operator "__rdivmod__" "(self, value, /)" ["Return divmod(value, self)."],
    operator "__repr__" "(self, /)" ["Return repr(self)."],
    operator "__rfloordiv__" "(self, value, /)" ["Return value//self."],
    operator "__rlshift__" "(self, value, /)" ["Return value<<self."],
    operator "__rmatmul__" "(self, value, /)" ["Return value@self."],
    operator "__rmod__" "(self, value, /)" ["Return value%self."],
    operator "__rmul__" "(self, value, /)" ["Return value*self."],
    operator "__ror__" "(self, value, /)" ["Return value|self."],
    operator "__rpow__" "(self, value, mod=None, /)" ["Return pow(value, self, mod)."],
    operator "__rrshift__" "(self, value, /)" ["Return value>>self."],
    operator "__rshift__" "(self, value, /)" ["Return self>>value."],
    operator "__rsub__" "(self, value, /)" ["Return value-self."],
    operator "__rtruediv__" "(self, value, /)" ["Return value/self."],
    operator "__rxor__" "(self, value, /)" ["Return value^self."],
    operator "__set__" "(self, instance, value, /)" ["Set an attribute of instance to value."],
    operator "__setattr__" "(self, name, value, /)" ["Implement setattr(self, name, value)."],
    operator "__setitem__" "(self, key, value, /)" ["Set self[key] to value."],
    operator "__str__" "(self, /)" ["Return str(self)."],
    operator "__sub__" "(self, value, /)" ["Return self-value."],
    operator "__truediv__" "(self, value, /)" ["Return self/value."],
    operator "__xor__" "(self, value, /)" ["Return self^value."]]

/-- Operators by their names. -/
def operators (names : List String) : Members :=
  allOperators.filter fun entry => names.contains entry.1

end Playground.Reference
