import Playground.Reference.Entry
import Playground.Reference.Operator

/-!
# Building blocks of iterators

The classes of the module of building blocks for iterators.
-/

namespace Playground.Reference

open Entry

/-- The class `itertools.accumulate`. -/
def accumulateClass : ClassTable where
  name := "itertools.accumulate"
  signature := "(iterable, func=None, *, initial=None)"
  documentation := ["Return series of accumulated sums (or other binary function results)."]
  members := operators ["__getattribute__", "__iter__", "__new__", "__next__"] ++ [
    value "__doc__" "str",
    method "__reduce__" none ["Return state information for pickling."],
    method "__setstate__" none ["Set state information for unpickling."]]

/-- The class `itertools.chain`. -/
def chainClass : ClassTable where
  name := "itertools.chain"
  documentation := [
    "chain(*iterables) --> chain object", "",
    "Return a chain object whose .__next__() method returns elements from the",
    "first iterable until it is exhausted, then elements from the next",
    "iterable, until all of the iterables are exhausted."]
  members := operators ["__getattribute__", "__iter__", "__new__", "__next__"] ++ [
    classMethod "__class_getitem__" none ["See PEP 585"],
    value "__doc__" "str",
    method "__reduce__" none ["Return state information for pickling."],
    method "__setstate__" none ["Set state information for unpickling."],
    classMethod "from_iterable" "(type, iterable, /)" [
      "Alternative chain() constructor taking a single iterable argument that evaluates lazily."]]

/-- The class `itertools.combinations`. -/
def combinationsClass : ClassTable where
  name := "itertools.combinations"
  signature := "(iterable, r)"
  documentation := [
    "Return successive r-length combinations of elements in the iterable.", "",
    "combinations(range(4), 3) --> (0,1,2), (0,1,3), (0,2,3), (1,2,3)"]
  members := operators ["__getattribute__", "__iter__", "__new__", "__next__"] ++ [
    value "__doc__" "str",
    method "__reduce__" none ["Return state information for pickling."],
    method "__setstate__" none ["Set state information for unpickling."],
    method "__sizeof__" none ["Returns size in memory, in bytes."]]

/-- The class `itertools.combinations_with_replacement`. -/
def combinationsWithReplacementClass : ClassTable where
  name := "itertools.combinations_with_replacement"
  signature := "(iterable, r)"
  documentation := [
    "Return successive r-length combinations of elements in the iterable allowing individual " ++
    "elements to have successive repeats.", "",
    "combinations_with_replacement('ABC', 2) --> ('A','A'), ('A','B'), ('A','C'), ('B','B'), " ++
    "('B','C'), ('C','C')"]
  members := operators ["__getattribute__", "__iter__", "__new__", "__next__"] ++ [
    value "__doc__" "str",
    method "__reduce__" none ["Return state information for pickling."],
    method "__setstate__" none ["Set state information for unpickling."],
    method "__sizeof__" none ["Returns size in memory, in bytes."]]

/-- The class `itertools.compress`. -/
def compressClass : ClassTable where
  name := "itertools.compress"
  signature := "(data, selectors)"
  documentation := [
    "Return data elements corresponding to true selector elements.", "",
    "Forms a shorter iterator from selected data elements using the selectors to",
    "choose the data elements."]
  members := operators ["__getattribute__", "__iter__", "__new__", "__next__"] ++ [
    value "__doc__" "str",
    method "__reduce__" none ["Return state information for pickling."]]

/-- The class `itertools.count`. -/
def countClass : ClassTable where
  name := "itertools.count"
  signature := "(start=0, step=1)"
  documentation := [
    "Return a count object whose .__next__() method returns consecutive values.", "",
    "Equivalent to:", "    def count(firstval=0, step=1):", "        x = firstval",
    "        while 1:", "            yield x", "            x += step"]
  members := operators ["__getattribute__", "__iter__", "__new__", "__next__", "__repr__"] ++ [
    value "__doc__" "str",
    method "__reduce__" none ["Return state information for pickling."]]

/-- The class `itertools.cycle`. -/
def cycleClass : ClassTable where
  name := "itertools.cycle"
  signature := "(iterable, /)"
  documentation := [
    "Return elements from the iterable until it is exhausted. Then repeat the sequence " ++
    "indefinitely."]
  members := operators ["__getattribute__", "__iter__", "__new__", "__next__"] ++ [
    value "__doc__" "str",
    method "__reduce__" none ["Return state information for pickling."],
    method "__setstate__" none ["Set state information for unpickling."]]

/-- The class `itertools.dropwhile`. -/
def dropwhileClass : ClassTable where
  name := "itertools.dropwhile"
  signature := "(predicate, iterable, /)"
  documentation := [
    "Drop items from the iterable while predicate(item) is true.", "",
    "Afterwards, return every element until the iterable is exhausted."]
  members := operators ["__getattribute__", "__iter__", "__new__", "__next__"] ++ [
    value "__doc__" "str",
    method "__reduce__" none ["Return state information for pickling."],
    method "__setstate__" none ["Set state information for unpickling."]]

/-- The class `itertools.filterfalse`. -/
def filterfalseClass : ClassTable where
  name := "itertools.filterfalse"
  signature := "(function, iterable, /)"
  documentation := [
    "Return those items of iterable for which function(item) is false.", "",
    "If function is None, return the items that are false."]
  members := operators ["__getattribute__", "__iter__", "__new__", "__next__"] ++ [
    value "__doc__" "str",
    method "__reduce__" none ["Return state information for pickling."]]

/-- The class `itertools.groupby`. -/
def groupbyClass : ClassTable where
  name := "itertools.groupby"
  signature := "(iterable, key=None)"
  documentation := [
    "make an iterator that returns consecutive keys and groups from the iterable", "", "iterable",
    "  Elements to divide into groups according to the key function.", "key",
    "  A function for computing the group category for each element.",
    "  If the key function is not specified or is None, the element itself",
    "  is used for grouping."]
  members := operators ["__getattribute__", "__iter__", "__new__", "__next__"] ++ [
    value "__doc__" "str",
    method "__reduce__" none ["Return state information for pickling."],
    method "__setstate__" none ["Set state information for unpickling."]]

/-- The class `itertools._grouper`. -/
def grouperClass : ClassTable where
  name := "itertools._grouper"
  members := operators ["__getattribute__", "__iter__", "__new__", "__next__"] ++ [
    value "__doc__" "NoneType",
    method "__reduce__" none ["Return state information for pickling."]]

/-- The class `itertools.islice`. -/
def isliceClass : ClassTable where
  name := "itertools.islice"
  documentation := [
    "islice(iterable, stop) --> islice object",
    "islice(iterable, start, stop[, step]) --> islice object", "",
    "Return an iterator whose next() method returns selected values from an",
    "iterable.  If start is specified, will skip all preceding elements;",
    "otherwise, start defaults to zero.  Step defaults to one.  If",
    "specified as another value, step determines how many values are",
    "skipped between successive calls.  Works like a slice() on a list",
    "but returns an iterator."]
  members := operators ["__getattribute__", "__iter__", "__new__", "__next__"] ++ [
    value "__doc__" "str",
    method "__reduce__" none ["Return state information for pickling."],
    method "__setstate__" none ["Set state information for unpickling."]]

/-- The class `itertools.pairwise`. -/
def pairwiseClass : ClassTable where
  name := "itertools.pairwise"
  signature := "(iterable, /)"
  documentation := [
    "Return an iterator of overlapping pairs taken from the input iterator.", "",
    "s -> (s0,s1), (s1,s2), (s2, s3), ..."]
  members := operators ["__getattribute__", "__iter__", "__new__", "__next__"] ++ [
    value "__doc__" "str"]

/-- The class `itertools.permutations`. -/
def permutationsClass : ClassTable where
  name := "itertools.permutations"
  signature := "(iterable, r=None)"
  documentation := [
    "Return successive r-length permutations of elements in the iterable.", "",
    "permutations(range(3), 2) --> (0,1), (0,2), (1,0), (1,2), (2,0), (2,1)"]
  members := operators ["__getattribute__", "__iter__", "__new__", "__next__"] ++ [
    value "__doc__" "str",
    method "__reduce__" none ["Return state information for pickling."],
    method "__setstate__" none ["Set state information for unpickling."],
    method "__sizeof__" none ["Returns size in memory, in bytes."]]

/-- The class `itertools.product`. -/
def productClass : ClassTable where
  name := "itertools.product"
  documentation := [
    "product(*iterables, repeat=1) --> product object", "",
    "Cartesian product of input iterables.  Equivalent to nested for-loops.", "",
    "For example, product(A, B) returns the same as:  ((x,y) for x in A for y in B).",
    "The leftmost iterators are in the outermost for-loop, so the output tuples",
    "cycle in a manner similar to an odometer (with the rightmost element changing",
    "on every iteration).", "",
    "To compute the product of an iterable with itself, specify the number",
    "of repetitions with the optional repeat keyword argument. For example,",
    "product(A, repeat=4) means the same as product(A, A, A, A).", "",
    "product('ab', range(3)) --> ('a',0) ('a',1) ('a',2) ('b',0) ('b',1) ('b',2)",
    "product((0,1), (0,1), (0,1)) --> (0,0,0) (0,0,1) (0,1,0) (0,1,1) (1,0,0) ..."]
  members := operators ["__getattribute__", "__iter__", "__new__", "__next__"] ++ [
    value "__doc__" "str",
    method "__reduce__" none ["Return state information for pickling."],
    method "__setstate__" none ["Set state information for unpickling."],
    method "__sizeof__" none ["Returns size in memory, in bytes."]]

/-- The class `itertools.repeat`. -/
def repeatClass : ClassTable where
  name := "itertools.repeat"
  documentation := [
    "repeat(object [,times]) -> create an iterator which returns the object",
    "for the specified number of times.  If not specified, returns the object", "endlessly."]
  members := operators ["__getattribute__", "__iter__", "__new__", "__next__", "__repr__"] ++ [
    value "__doc__" "str",
    method "__length_hint__" none ["Private method returning an estimate of len(list(it))."],
    method "__reduce__" none ["Return state information for pickling."]]

/-- The class `itertools.starmap`. -/
def starmapClass : ClassTable where
  name := "itertools.starmap"
  signature := "(function, iterable, /)"
  documentation := [
    "Return an iterator whose values are returned from the function evaluated with an " ++
    "argument tuple taken from the given sequence."]
  members := operators ["__getattribute__", "__iter__", "__new__", "__next__"] ++ [
    value "__doc__" "str",
    method "__reduce__" none ["Return state information for pickling."]]

/-- The class `itertools.takewhile`. -/
def takewhileClass : ClassTable where
  name := "itertools.takewhile"
  signature := "(predicate, iterable, /)"
  documentation := [
    "Return successive entries from an iterable as long as the predicate evaluates to true " ++
    "for each entry."]
  members := operators ["__getattribute__", "__iter__", "__new__", "__next__"] ++ [
    value "__doc__" "str",
    method "__reduce__" none ["Return state information for pickling."],
    method "__setstate__" none ["Set state information for unpickling."]]

/-- The class `itertools._tee`. -/
def teeClass : ClassTable where
  name := "itertools._tee"
  signature := "(iterable, /)"
  documentation := ["Iterator wrapped to make it copyable."]
  members := operators ["__iter__", "__new__", "__next__"] ++ [
    method "__copy__" none ["Returns an independent iterator."],
    value "__doc__" "str",
    method "__reduce__" none ["Return state information for pickling."],
    method "__setstate__" none ["Set state information for unpickling."]]

/-- The class `itertools._tee_dataobject`. -/
def teeDataobjectClass : ClassTable where
  name := "itertools._tee_dataobject"
  documentation := [
    "teedataobject(iterable, values, next, /)", "--", "",
    "Data container common to multiple tee objects."]
  members := operators ["__getattribute__", "__new__"] ++ [
    value "__doc__" "str",
    method "__reduce__" none ["Return state information for pickling."]]

/-- The class `itertools.zip_longest`. -/
def zipLongestClass : ClassTable where
  name := "itertools.zip_longest"
  documentation := [
    "zip_longest(iter1 [,iter2 [...]], [fillvalue=None]) --> zip_longest object", "",
    "Return a zip_longest object whose .__next__() method returns a tuple where",
    "the i-th element comes from the i-th iterable argument.  The .__next__()",
    "method continues until the longest iterable in the argument sequence",
    "is exhausted and then it raises StopIteration.  When the shorter iterables",
    "are exhausted, the fillvalue is substituted in their place.  The fillvalue",
    "defaults to None or can be specified by a keyword argument."]
  members := operators ["__getattribute__", "__iter__", "__new__", "__next__"] ++ [
    value "__doc__" "str",
    method "__reduce__" none ["Return state information for pickling."],
    method "__setstate__" none ["Set state information for unpickling."]]

/-- The classes of building blocks for iterators. -/
def combinationClasses : List ClassTable := [
  accumulateClass, chainClass, combinationsClass, combinationsWithReplacementClass, compressClass,
  countClass, cycleClass, dropwhileClass, filterfalseClass, groupbyClass, grouperClass,
  isliceClass, pairwiseClass, permutationsClass, productClass, repeatClass, starmapClass,
  takewhileClass, teeClass, teeDataobjectClass, zipLongestClass]

end Playground.Reference
