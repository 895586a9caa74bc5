import Mathlib.Data.List.DropRight
import Playground.Text.Blank

/-!
# Trimmed texts

What `trim` leaves has no white space around it, and `trim` leaves such a text as it is.
-/

namespace Playground.Text

/-- A text that neither begins nor ends with white space. -/
structure IsTrimmed (s : List Char) : Prop where
  first : ∀ c ∈ s.head?, isBlank c = false
  last : ∀ c ∈ s.getLast?, isBlank c = false

/-- White space is dropped up to a character that is none. -/
theorem isBlank_of_mem_head?_dropWhile {s : List Char} {c : Char}
    (hc : c ∈ (s.dropWhile isBlank).head?) : isBlank c = false := by
  have hnot := List.head?_dropWhile_not isBlank s
  rw [Option.mem_def.mp hc] at hnot
  exact hnot

/-- A text without the white space around it is trimmed. -/
theorem isTrimmed_trim (s : List Char) : IsTrimmed (trim s) where
  first c hc := by
    -- what is dropped at the end leaves the first character in place
    have hprefix : trim s <+: s.dropWhile isBlank := List.rdropWhile_prefix isBlank _
    obtain ⟨rest, hrest⟩ := List.head?_eq_some_iff.mp hc
    obtain ⟨dropped, hdropped⟩ := hprefix
    refine isBlank_of_mem_head?_dropWhile (s := s) ?_
    rw [← hdropped, hrest]
    rfl
  last c hc := by
    rw [trim, List.getLast?_reverse] at hc
    exact isBlank_of_mem_head?_dropWhile hc

/-- A trimmed text stays as it is. -/
theorem IsTrimmed.trim_eq {s : List Char} (h : IsTrimmed s) : trim s = s := by
  have hfirst : s.dropWhile isBlank = s := by
    refine List.dropWhile_eq_self_iff.mpr fun hpos => ?_
    rw [h.first s[0] (List.head?_eq_getElem? ▸ List.getElem?_eq_getElem hpos)]
    exact Bool.false_ne_true
  have hlast : s.rdropWhile isBlank = s := by
    refine List.rdropWhile_eq_self_iff.mpr fun hne => ?_
    rw [h.last _ (List.getLast?_eq_some_getLast hne)]
    exact Bool.false_ne_true
  show (s.dropWhile isBlank).rdropWhile isBlank = s
  rw [hfirst, hlast]

end Playground.Text
