import Mathlib.Data.List.Basic
import Mathlib.Data.List.Chain
import Playground.Text.Blank
import Playground.Text.Word

/-!
# Words and white space

The table of word characters is ascending, so that a character is looked up by the two entries
between which it lies. White space lies where a run of word characters is over.

- `CharSet.countBetween_eq`: what binary search finds.
- `CharSet.contains_of_between`: membership by the entries around a character.
- `isWord_of_isBlank`: no white space is part of a word.
-/

namespace Playground.Text

namespace CharSet

/-- In an ascending list, an entry is at least those before it and at most those after it. -/
theorem le_of_ascending {xs : List Nat} (hsorted : xs.Pairwise (· ≤ ·)) {i : Nat}
    (hi : i < xs.length) :
    (∀ x ∈ xs.take (i + 1), x ≤ xs[i]) ∧ ∀ x ∈ xs.drop i, xs[i] ≤ x := by
  have hsplit : xs.take i ++ xs[i] :: xs.drop (i + 1) = xs := by
    rw [List.getElem_cons_drop, List.take_append_drop]
  rw [← hsplit, List.pairwise_append, List.pairwise_cons] at hsorted
  constructor
  · intro x hx
    rw [List.take_add_one, List.getElem?_eq_getElem hi, Option.toList_some, List.mem_append,
      List.mem_singleton] at hx
    rcases hx with hx | rfl
    · exact hsorted.2.2 x hx _ List.mem_cons_self
    · exact Nat.le_refl _
  · intro x hx
    rw [← List.getElem_cons_drop hi, List.mem_cons] at hx
    rcases hx with rfl | hx
    · exact Nat.le_refl _
    · exact hsorted.2.1.1 x hx

/-- Binary search finds the place of a table up to which the entries are at most `c`, and from which
on they are not. -/
theorem countBetween_eq {boundaries : Array Nat} {c k lo hi : Nat} (hhi : hi ≤ boundaries.size)
    (hlo : lo ≤ k) (hk : k ≤ hi) (hbelow : ∀ x ∈ boundaries.toList.take k, x ≤ c)
    (habove : ∀ x ∈ boundaries.toList.drop k, c < x) : countBetween boundaries c lo hi = k := by
  have hentry {i : Nat} (hi : i < boundaries.size) : boundaries.getD i 0 ≤ c ↔ i < k := by
    have hget : boundaries.toList[i]? = some (boundaries.getD i 0) := by
      rw [Array.getElem?_toList, Array.getD_eq_getD_getElem?, Array.getElem?_eq_getElem hi]
      rfl
    constructor
    · intro hle
      by_contra hik
      have hmem : boundaries.getD i 0 ∈ boundaries.toList.drop k :=
        List.mem_iff_getElem?.mpr ⟨i - k, by rw [List.getElem?_drop, ← hget]; congr 1; omega⟩
      exact absurd hle (Nat.not_le.mpr (habove _ hmem))
    · intro hik
      exact hbelow _ (List.mem_iff_getElem?.mpr ⟨i, by rw [List.getElem?_take_of_lt hik, hget]⟩)
  fun_induction countBetween boundaries c lo hi with
  | case1 lo hi hlt mid hmid ih => exact ih hhi ((hentry (by omega)).mp hmid) hk
  | case2 lo hi hlt mid hmid ih =>
    rw [hentry (by omega)] at hmid
    exact ih (by omega) hlo (by omega)
  | case3 lo hi hlt => omega

/-- A character that lies between two entries that follow on each other is in the set iff the number
of entries up to the first of them is odd. -/
theorem contains_of_between {s : CharSet} (hsorted : s.boundaries.toList.Pairwise (· ≤ ·)) {c : Char}
    {i first next : Nat} (hfirst : s.boundaries.toList[i]? = some first)
    (hnext : s.boundaries.toList[i + 1]? = some next) (hle : first ≤ c.toNat)
    (hlt : c.toNat < next) : s.contains c = decide ((i + 1) % 2 = 1) := by
  obtain ⟨hi, rfl⟩ := List.getElem?_eq_some_iff.mp hfirst
  obtain ⟨hi', rfl⟩ := List.getElem?_eq_some_iff.mp hnext
  have hcount : countBetween s.boundaries c.toNat 0 s.boundaries.size = i + 1 := by
    refine countBetween_eq (Nat.le_refl _) (Nat.zero_le _) ?_ ?_ ?_
    · rw [← Array.length_toList]
      exact hi
    · exact fun x hx => ((le_of_ascending hsorted hi).1 x hx).trans hle
    · exact fun x hx => hlt.trans_le ((le_of_ascending hsorted hi').2 x hx)
  rw [contains, hcount]

end CharSet

theorem pairwise_alphanumericBoundaries : alphanumericBoundaries.toList.Pairwise (· ≤ ·) := by
  rw [← List.isChain_iff_pairwise]
  decide +kernel

/-- The code points of white space. -/
def blanks : List Nat :=
  List.range' 9 5 ++ List.range' 28 5 ++ [0x85, 0xA0, 0x1680] ++ List.range' 0x2000 11 ++
    [0x2028, 0x2029, 0x202F, 0x205F, 0x3000]

theorem isBlank_iff {c : Char} : isBlank c = true ↔ c.toNat ∈ blanks := by
  simp only [isBlank, blanks, List.mem_append, List.mem_range'_1, List.mem_cons, Bool.or_eq_true,
    Bool.and_eq_true, decide_eq_true_eq, beq_iff_eq, List.not_mem_nil, or_false]
  omega

/-- Where white space lies in the table of word characters: the places of the entries before it, and
these entries with those that follow on them. -/
def blankPlaces : List (Nat × Nat × Nat) :=
  [(5, 0x7B, 0xAA), (423, 0x1680, 0x1681), (553, 0x1FFD, 0x2070), (633, 0x2E30, 0x3005)]

/-- No white space is part of a word. -/
theorem isWord_of_isBlank {c : Char} (h : isBlank c = true) : isWord c = false := by
  have hblank := isBlank_iff.mp h
  have hletters : ∀ n ∈ blanks, (Char.ofNat n).isAlphanum = false ∧ Char.ofNat n ≠ '_' := by
    decide
  have hplaces : ∀ n ∈ blanks, 128 ≤ n → ∃ p ∈ blankPlaces, p.2.1 ≤ n ∧ n < p.2.2 := by
    decide
  have htable : ∀ p ∈ blankPlaces, (p.1 + 1) % 2 ≠ 1 ∧
      alphanumericBoundaries.toList[p.1]? = some p.2.1 ∧
        alphanumericBoundaries.toList[p.1 + 1]? = some p.2.2 := by
    decide +kernel
  obtain ⟨hletter, hunderscore⟩ := hletters c.toNat hblank
  rw [Char.ofNat_toNat] at hletter hunderscore
  have halphanumeric : isAlphanumeric c = false := by
    unfold isAlphanumeric
    split
    · exact hletter
    · rename_i hascii
      obtain ⟨p, hp, hle, hlt⟩ := hplaces _ hblank (by omega)
      obtain ⟨hodd, hfirst, hnext⟩ := htable p hp
      exact (CharSet.contains_of_between (s := ⟨alphanumericBoundaries⟩)
        pairwise_alphanumericBoundaries hfirst hnext hle hlt).trans (decide_eq_false hodd)
  rw [isWord, halphanumeric, Bool.false_or, beq_false_of_ne hunderscore]

end Playground.Text
