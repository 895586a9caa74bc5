/-!
# Sets of characters

A property of characters that a standard gives as a table is kept as the ascending list of code
points at which the property starts or stops holding. A character has the property when the number
of such points up to it is odd, which binary search finds without looking at the rest of the table.
-/

namespace Playground.Text

/-- A set of characters, as the ascending code points where membership changes. -/
structure CharSet where
  /-- The first code point of each run of members, and the first one after it, in turn. -/
  boundaries : Array Nat

namespace CharSet

/-- How many of the entries `lo ≤ i < hi` are at most `c`, counted from the front, in an ascending
array whose entries below `lo` are at most `c` and whose entries from `hi` on are above it. -/
def countBetween (boundaries : Array Nat) (c lo hi : Nat) : Nat :=
  if h : lo < hi then
    let mid := (lo + hi) / 2
    if boundaries.getD mid 0 ≤ c then countBetween boundaries c (mid + 1) hi
    else countBetween boundaries c lo mid
  else lo
termination_by hi - lo

/-- Membership: an odd number of boundaries lie at or below a member. -/
def contains (s : CharSet) (c : Char) : Bool :=
  countBetween s.boundaries c.toNat 0 s.boundaries.size % 2 = 1

end CharSet

end Playground.Text
