import Playground.Reference.Entry
import Playground.Reference.Operator

/-!
# Iterators

The classes of the iterators that are made from other iterables.
-/

namespace Playground.Reference

open Entry

/-- The class `enumerate`. -/
def enumerateClass : ClassTable where
  name := "enumerate"
  signature := "(iterable, start=0)"
  documentation := [
    "Return an enumerate object.", "", "  iterable", "    an object supporting iteration", "",
    "The enumerate object yields pairs containing a count (from start, which",
    "defaults to zero) and a value yielded by the iterable argument.", "",
    "enumerate is useful for obtaining an indexed list:",
    "    (0, seq[0]), (1, seq[1]), (2, seq[2]), ..."]
  members := operators ["__getattribute__", "__iter__", "__new__", "__next__"] ++ [
    classMethod "__class_getitem__" none ["See PEP 585"],
    value "__doc__" "str",
    method "__reduce__" none ["Return state information for pickling."]]

/-- The class `filter`. -/
def filterClass : ClassTable where
  name := "filter"
  documentation := [
    "filter(function or None, iterable) --> filter object", "",
    "Return an iterator yielding those items of iterable for which function(item)",
    "is true. If function is None, return the items that are true."]
  members := operators ["__getattribute__", "__iter__", "__new__", "__next__"] ++ [
    value "__doc__" "str",
    method "__reduce__" none ["Return state information for pickling."]]

/-- The class `map`. -/
def mapClass : ClassTable where
  name := "map"
  documentation := [
    "map(func, *iterables) --> map object", "",
    "Make an iterator that computes the function using arguments from",
    "each of the iterables.  Stops when the shortest iterable is exhausted."]
  members := operators ["__getattribute__", "__iter__", "__new__", "__next__"] ++ [
    value "__doc__" "str",
    method "__reduce__" none ["Return state information for pickling."]]

/-- The class `reversed`. -/
def reversedClass : ClassTable where
  name := "reversed"
  signature := "(sequence, /)"
  documentation := ["Return a reverse iterator over the values of the given sequence."]
  members := operators ["__getattribute__", "__iter__", "__new__", "__next__"] ++ [
    value "__doc__" "str",
    method "__length_hint__" none ["Private method returning an estimate of len(list(it))."],
    method "__reduce__" none ["Return state information for pickling."],
    method "__setstate__" none ["Set state information for unpickling."]]

/-- The class `zip`. -/
def zipClass : ClassTable where
  name := "zip"
  documentation := [
    "zip(*iterables, strict=False) --> Yield tuples until an input is exhausted.", "",
    "   >>> list(zip('abcdefg', range(3), range(4)))",
    "   [('a', 0, 0), ('b', 1, 1), ('c', 2, 2)]", "",
    "The zip object yields n-length tuples, where n is the number of iterables",
    "passed as positional arguments to zip().  The i-th element in every tuple",
    "comes from the i-th iterable argument to zip().  This continues until the",
    "shortest argument is exhausted.", "",
    "If strict is true and one of the arguments is exhausted before the others,",
    "raise a ValueError."]
  members := operators ["__getattribute__", "__iter__", "__new__", "__next__"] ++ [
    value "__doc__" "str",
    method "__reduce__" none ["Return state information for pickling."],
    method "__setstate__" none ["Set state information for unpickling."]]

/-- The classes of iterators. -/
def iteratorClasses : List ClassTable := [
  enumerateClass, filterClass, mapClass, reversedClass, zipClass]

end Playground.Reference
