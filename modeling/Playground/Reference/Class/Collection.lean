import Playground.Reference.Entry
import Playground.Reference.Operator

/-!
# Collections

The classes of sequences, mappings and sets.
-/

namespace Playground.Reference

open Entry

/-- The class `list`. -/
def listClass : ClassTable where
  name := "list"
  signature := "(iterable=(), /)"
  documentation := [
    "Built-in mutable sequence.", "",
    "If no argument is given, the constructor creates a new empty list.",
    "The argument must be an iterable if specified."]
  members := operators [
    "__add__", "__contains__", "__delitem__", "__eq__", "__ge__", "__getattribute__", "__gt__",
    "__iadd__", "__imul__", "__init__", "__iter__", "__le__", "__len__", "__lt__", "__mul__",
    "__ne__", "__new__", "__repr__", "__rmul__", "__setitem__"] ++ [
    classMethod "__class_getitem__" none ["See PEP 585"],
    value "__doc__" "str",
    method "__getitem__" none ["x.__getitem__(y) <==> x[y]"],
    value "__hash__" "NoneType",
    method "__reversed__" "(self, /)" ["Return a reverse iterator over the list."],
    method "__sizeof__" "(self, /)" ["Return the size of the list in memory, in bytes."],
    method "append" "(self, object, /)" ["Append object to the end of the list."],
    method "clear" "(self, /)" ["Remove all items from list."],
    method "copy" "(self, /)" ["Return a shallow copy of the list."],
    method "count" "(self, value, /)" ["Return number of occurrences of value."],
    method "extend" "(self, iterable, /)" [
      "Extend list by appending elements from the iterable."],
    method "index" "(self, value, start=0, stop=9223372036854775807, /)" [
      "Return first index of value.", "", "Raises ValueError if the value is not present."],
    method "insert" "(self, index, object, /)" ["Insert object before index."],
    method "pop" "(self, index=-1, /)" [
      "Remove and return item at index (default last).", "",
      "Raises IndexError if list is empty or index is out of range."],
    method "remove" "(self, value, /)" [
      "Remove first occurrence of value.", "", "Raises ValueError if the value is not present."],
    method "reverse" "(self, /)" ["Reverse *IN PLACE*."],
    method "sort" "(self, /, *, key=None, reverse=False)" [
      "Sort the list in ascending order and return None.", "",
      "The sort is in-place (i.e. the list itself is modified) and stable (i.e. the",
      "order of two equal elements is maintained).", "",
      "If a key function is given, apply it once to each list item and sort them,",
      "ascending or descending, according to their function values.", "",
      "The reverse flag can be set to sort in descending order."]]

/-- The class `tuple`. -/
def tupleClass : ClassTable where
  name := "tuple"
  signature := "(iterable=(), /)"
  documentation := [
    "Built-in immutable sequence.", "",
    "If no argument is given, the constructor returns an empty tuple.",
    "If iterable is specified the tuple is initialized from iterable's items.", "",
    "If the argument is a tuple, the return value is the same object."]
  members := operators [
    "__add__", "__contains__", "__eq__", "__ge__", "__getattribute__", "__getitem__", "__gt__",
    "__hash__", "__iter__", "__le__", "__len__", "__lt__", "__mul__", "__ne__", "__new__",
    "__repr__", "__rmul__"] ++ [
    classMethod "__class_getitem__" none ["See PEP 585"],
    value "__doc__" "str",
    method "__getnewargs__" "(self, /)" [],
    method "count" "(self, value, /)" ["Return number of occurrences of value."],
    method "index" "(self, value, start=0, stop=9223372036854775807, /)" [
      "Return first index of value.", "", "Raises ValueError if the value is not present."]]

/-- The class `range`. -/
def rangeClass : ClassTable where
  name := "range"
  documentation := [
    "range(stop) -> range object", "range(start, stop[, step]) -> range object", "",
    "Return an object that produces a sequence of integers from start (inclusive)",
    "to stop (exclusive) by step.  range(i, j) produces i, i+1, i+2, ..., j-1.",
    "start defaults to 0, and stop is omitted!  range(4) produces 0, 1, 2, 3.",
    "These are exactly the valid indices for a list of 4 elements.",
    "When step is given, it specifies the increment (or decrement)."]
  members := operators [
    "__bool__", "__contains__", "__eq__", "__ge__", "__getattribute__", "__getitem__", "__gt__",
    "__hash__", "__iter__", "__le__", "__len__", "__lt__", "__ne__", "__new__", "__repr__"] ++ [
    value "__doc__" "str",
    method "__reduce__" none ["Helper for pickle."],
    method "__reversed__" none ["Return a reverse iterator."],
    method "count" none [
      "rangeobject.count(value) -> integer -- return number of occurrences of value"],
    method "index" none [
      "rangeobject.index(value) -> integer -- return index of value.",
      "Raise ValueError if the value is not present."],
    field "start",
    field "step",
    field "stop"]

/-- The class `slice`. -/
def sliceClass : ClassTable where
  name := "slice"
  documentation := [
    "slice(stop)", "slice(start, stop[, step])", "",
    "Create a slice object.  This is used for extended slicing (e.g. a[0:10:2])."]
  members := operators [
    "__eq__", "__ge__", "__getattribute__", "__gt__", "__le__", "__lt__", "__ne__", "__new__",
    "__repr__"] ++ [
    value "__doc__" "str",
    value "__hash__" "NoneType",
    method "__reduce__" none ["Return state information for pickling."],
    method "indices" none [
      "S.indices(len) -> (start, stop, stride)", "",
      "Assuming a sequence of length len, calculate the start and stop",
      "indices, and the stride length of the extended slice described by",
      "S. Out of bounds indices are clipped in a manner consistent with the",
      "handling of normal slices."],
    field "start",
    field "step",
    field "stop"]

/-- The class `dict`. -/
def dictClass : ClassTable where
  name := "dict"
  documentation := [
    "dict() -> new empty dictionary",
    "dict(mapping) -> new dictionary initialized from a mapping object's",
    "    (key, value) pairs", "dict(iterable) -> new dictionary initialized as if via:",
    "    d = \x7b\x7d", "    for k, v in iterable:", "        d[k] = v",
    "dict(**kwargs) -> new dictionary initialized with the name=value pairs",
    "    in the keyword argument list.  For example:  dict(one=1, two=2)"]
  members := operators [
    "__delitem__", "__eq__", "__ge__", "__getattribute__", "__gt__", "__init__", "__ior__",
    "__iter__", "__le__", "__len__", "__lt__", "__ne__", "__new__", "__or__", "__repr__",
    "__ror__", "__setitem__"] ++ [
    classMethod "__class_getitem__" none ["See PEP 585"],
    method "__contains__" "(self, key, /)" [
      "True if the dictionary has the specified key, else False."],
    value "__doc__" "str",
    method "__getitem__" none ["x.__getitem__(y) <==> x[y]"],
    value "__hash__" "NoneType",
    method "__reversed__" "(self, /)" ["Return a reverse iterator over the dict keys."],
    method "__sizeof__" none ["D.__sizeof__() -> size of D in memory, in bytes"],
    method "clear" none ["D.clear() -> None.  Remove all items from D."],
    method "copy" none ["D.copy() -> a shallow copy of D"],
    classMethod "fromkeys" "(type, iterable, value=None, /)" [
      "Create a new dictionary with keys from iterable and values set to value."],
    method "get" "(self, key, default=None, /)" [
      "Return the value for key if key is in the dictionary, else default."],
    method "items" none ["D.items() -> a set-like object providing a view on D's items"],
    method "keys" none ["D.keys() -> a set-like object providing a view on D's keys"],
    method "pop" none [
      "D.pop(k[,d]) -> v, remove specified key and return the corresponding value.", "",
      "If the key is not found, return the default if given; otherwise,", "raise a KeyError."],
    method "popitem" "(self, /)" [
      "Remove and return a (key, value) pair as a 2-tuple.", "",
      "Pairs are returned in LIFO (last-in, first-out) order.",
      "Raises KeyError if the dict is empty."],
    method "setdefault" "(self, key, default=None, /)" [
      "Insert key with a value of default if key is not in the dictionary.", "",
      "Return the value for key if key is in the dictionary, else default."],
    method "update" none [
      "D.update([E, ]**F) -> None.  Update D from dict/iterable E and F.",
      "If E is present and has a .keys() method, then does:  for k in E: D[k] = E[k]",
      "If E is present and lacks a .keys() method, then does:  for k, v in E: D[k] = v",
      "In either case, this is followed by: for k in F:  D[k] = F[k]"],
    method "values" none ["D.values() -> an object providing a view on D's values"]]

/-- The class `set`. -/
def setClass : ClassTable where
  name := "set"
  documentation := [
    "set() -> new empty set object", "set(iterable) -> new set object", "",
    "Build an unordered collection of unique elements."]
  members := operators [
    "__and__", "__eq__", "__ge__", "__getattribute__", "__gt__", "__iand__", "__init__", "__ior__",
    "__isub__", "__iter__", "__ixor__", "__le__", "__len__", "__lt__", "__ne__", "__new__",
    "__or__", "__rand__", "__repr__", "__ror__", "__rsub__", "__rxor__", "__sub__", "__xor__"] ++ [
    classMethod "__class_getitem__" none ["See PEP 585"],
    method "__contains__" none ["x.__contains__(y) <==> y in x."],
    value "__doc__" "str",
    value "__hash__" "NoneType",
    method "__reduce__" none ["Return state information for pickling."],
    method "__sizeof__" none ["S.__sizeof__() -> size of S in memory, in bytes"],
    method "add" none [
      "Add an element to a set.", "", "This has no effect if the element is already present."],
    method "clear" none ["Remove all elements from this set."],
    method "copy" none ["Return a shallow copy of a set."],
    method "difference" none [
      "Return the difference of two or more sets as a new set.", "",
      "(i.e. all elements that are in this set but not the others.)"],
    method "difference_update" none ["Remove all elements of another set from this set."],
    method "discard" none [
      "Remove an element from a set if it is a member.", "",
      "Unlike set.remove(), the discard() method does not raise",
      "an exception when an element is missing from the set."],
    method "intersection" none [
      "Return the intersection of two sets as a new set.", "",
      "(i.e. all elements that are in both sets.)"],
    method "intersection_update" none [
      "Update a set with the intersection of itself and another."],
    method "isdisjoint" none ["Return True if two sets have a null intersection."],
    method "issubset" "(self, other, /)" ["Test whether every element in the set is in other."],
    method "issuperset" "(self, other, /)" ["Test whether every element in other is in the set."],
    method "pop" none [
      "Remove and return an arbitrary set element.", "Raises KeyError if the set is empty."],
    method "remove" none [
      "Remove an element from a set; it must be a member.", "",
      "If the element is not a member, raise a KeyError."],
    method "symmetric_difference" none [
      "Return the symmetric difference of two sets as a new set.", "",
      "(i.e. all elements that are in exactly one of the sets.)"],
    method "symmetric_difference_update" none [
      "Update a set with the symmetric difference of itself and another."],
    method "union" none [
      "Return the union of sets as a new set.", "", "(i.e. all elements that are in either set.)"],
    method "update" none ["Update a set with the union of itself and others."]]

/-- The class `frozenset`. -/
def frozensetClass : ClassTable where
  name := "frozenset"
  documentation := [
    "frozenset() -> empty frozenset object", "frozenset(iterable) -> frozenset object", "",
    "Build an immutable unordered collection of unique elements."]
  members := operators [
    "__and__", "__eq__", "__ge__", "__getattribute__", "__gt__", "__hash__", "__iter__", "__le__",
    "__len__", "__lt__", "__ne__", "__new__", "__or__", "__rand__", "__repr__", "__ror__",
    "__rsub__", "__rxor__", "__sub__", "__xor__"] ++ [
    classMethod "__class_getitem__" none ["See PEP 585"],
    method "__contains__" none ["x.__contains__(y) <==> y in x."],
    value "__doc__" "str",
    method "__reduce__" none ["Return state information for pickling."],
    method "__sizeof__" none ["S.__sizeof__() -> size of S in memory, in bytes"],
    method "copy" none ["Return a shallow copy of a set."],
    method "difference" none [
      "Return the difference of two or more sets as a new set.", "",
      "(i.e. all elements that are in this set but not the others.)"],
    method "intersection" none [
      "Return the intersection of two sets as a new set.", "",
      "(i.e. all elements that are in both sets.)"],
    method "isdisjoint" none ["Return True if two sets have a null intersection."],
    method "issubset" "(self, other, /)" ["Test whether every element in the set is in other."],
    method "issuperset" "(self, other, /)" ["Test whether every element in other is in the set."],
    method "symmetric_difference" none [
      "Return the symmetric difference of two sets as a new set.", "",
      "(i.e. all elements that are in exactly one of the sets.)"],
    method "union" none [
      "Return the union of sets as a new set.", "", "(i.e. all elements that are in either set.)"]]

/-- The class `mappingproxy`. -/
def mappingproxyClass : ClassTable where
  name := "mappingproxy"
  members := operators [
    "__contains__", "__eq__", "__ge__", "__getattribute__", "__getitem__", "__gt__", "__ior__",
    "__iter__", "__le__", "__len__", "__lt__", "__ne__", "__new__", "__or__", "__repr__",
    "__ror__", "__str__"] ++ [
    classMethod "__class_getitem__" none ["See PEP 585"],
    value "__doc__" "NoneType",
    value "__hash__" "NoneType",
    method "__reversed__" none ["D.__reversed__() -> reverse iterator"],
    method "copy" none ["D.copy() -> a shallow copy of D"],
    method "get" none ["D.get(k[,d]) -> D[k] if k in D, else d.  d defaults to None."],
    method "items" none ["D.items() -> a set-like object providing a view on D's items"],
    method "keys" none ["D.keys() -> a set-like object providing a view on D's keys"],
    method "values" none ["D.values() -> an object providing a view on D's values"]]

/-- The classes of sequences, mappings and sets. -/
def collectionClasses : List ClassTable := [
  listClass, tupleClass, rangeClass, sliceClass, dictClass, setClass, frozensetClass,
  mappingproxyClass]

end Playground.Reference
