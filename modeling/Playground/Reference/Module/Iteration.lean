import Playground.Reference.Entry

/-!
# Building blocks for iterators

The module of functions that make iterators.
-/

namespace Playground.Reference

open Entry

/-- The module `itertools`. -/
def itertoolsModule : ModuleTable where
  name := "itertools"
  documentation := [
    "Functional tools for creating and using iterators.", "", "Infinite iterators:",
    "count(start=0, step=1) --> start, start+step, start+2*step, ...",
    "cycle(p) --> p0, p1, ... plast, p0, p1, ...",
    "repeat(elem [,n]) --> elem, elem, elem, ... endlessly or up to n times", "",
    "Iterators terminating on the shortest input sequence:",
    "accumulate(p[, func]) --> p0, p0+p1, p0+p1+p2",
    "chain(p, q, ...) --> p0, p1, ... plast, q0, q1, ...",
    "chain.from_iterable([p, q, ...]) --> p0, p1, ... plast, q0, q1, ...",
    "compress(data, selectors) --> (d[0] if s[0]), (d[1] if s[1]), ...",
    "dropwhile(pred, seq) --> seq[n], seq[n+1], starting when pred fails",
    "groupby(iterable[, keyfunc]) --> sub-iterators grouped by value of keyfunc(v)",
    "filterfalse(pred, seq) --> elements of seq where pred(elem) is False",
    "islice(seq, [start,] stop [, step]) --> elements from", "       seq[start:stop:step]",
    "pairwise(s) --> (s[0],s[1]), (s[1],s[2]), (s[2], s[3]), ...",
    "starmap(fun, seq) --> fun(*seq[0]), fun(*seq[1]), ...",
    "tee(it, n=2) --> (it1, it2 , ... itn) splits one iterator into n",
    "takewhile(pred, seq) --> seq[0], seq[1], until pred fails",
    "zip_longest(p, q, ...) --> (p[0], q[0]), (p[1], q[1]), ...", "", "Combinatoric generators:",
    "product(p, q, ... [repeat=1]) --> cartesian product", "permutations(p[, r])",
    "combinations(p, r)", "combinations_with_replacement(p, r)"]
  members := [
    value "__doc__" "str",
    classOf "__loader__" "BuiltinImporter",
    value "__name__" "str",
    value "__package__" "str",
    value "__spec__" "ModuleSpec",
    classOf "_grouper" "itertools._grouper",
    classOf "_tee" "itertools._tee",
    classOf "_tee_dataobject" "itertools._tee_dataobject",
    classOf "accumulate" "itertools.accumulate",
    classOf "chain" "itertools.chain",
    classOf "combinations" "itertools.combinations",
    classOf "combinations_with_replacement" "itertools.combinations_with_replacement",
    classOf "compress" "itertools.compress",
    classOf "count" "itertools.count",
    classOf "cycle" "itertools.cycle",
    classOf "dropwhile" "itertools.dropwhile",
    classOf "filterfalse" "itertools.filterfalse",
    classOf "groupby" "itertools.groupby",
    classOf "islice" "itertools.islice",
    classOf "pairwise" "itertools.pairwise",
    classOf "permutations" "itertools.permutations",
    classOf "product" "itertools.product",
    classOf "repeat" "itertools.repeat",
    classOf "starmap" "itertools.starmap",
    classOf "takewhile" "itertools.takewhile",
    function "tee" "(iterable, n=2, /)" ["Returns a tuple of n independent iterators."],
    classOf "zip_longest" "itertools.zip_longest"]

end Playground.Reference
