/-!
# First occurrences

Where several entries have one key, the first of them counts, and the order is that of the first
occurrences.
-/

namespace Playground.Completion

/-- The entries whose key is neither among the keys given nor that of an earlier entry. -/
def firstsAfter {α : Type} (key : α → String) : List String → List α → List α
  | _, [] => []
  | seen, x :: xs =>
    if seen.contains (key x) then firstsAfter key seen xs
    else x :: firstsAfter key (key x :: seen) xs

/-- The first entry of each key. -/
def firsts {α : Type} (key : α → String) (xs : List α) : List α :=
  firstsAfter key [] xs

end Playground.Completion
