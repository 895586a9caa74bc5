import Mathlib.Data.List.SplitBy
import Playground.Completion.Binding
import Playground.Proofs.Completion.Chain
import Playground.Proofs.Workspace.FileName

/-!
# Lists of imports

A list of imports is cut at its commas, and a piece of it is read word by word. The words are told
apart by white space alone, so a name in the list is any run of other characters.

- `Stops`: where a run of characters ends, with what is taken and dropped of a text up to there.
- `words_append_run`: the words of a text whose first word is known.
- `blank_or_run`: every text has a first word, or there is nothing but white space in it.
- `Item`: what a piece of a list says, as a relation between the piece and what is read of it.
- `item?_eq_some_iff` and `mem_splitNames_iff`: just this is read.
-/

namespace Playground

namespace Text

/-! ## Runs of characters -/

/-- A text that does not begin with a character of some kind. -/
def Stops (p : Char → Bool) (text : List Char) : Prop :=
  ∀ c ∈ text.head?, p c = false

instance (p : Char → Bool) (text : List Char) : Decidable (Stops p text) :=
  decidable_of_iff (text.head?.all (!p ·) = true) (by simp [Stops, Option.all_eq_true])

section

variable {p : Char → Bool} {front back : List Char}

theorem stops_dropWhile (p : Char → Bool) (text : List Char) : Stops p (text.dropWhile p) := by
  intro c hc
  have hnot := List.head?_dropWhile_not p text
  rw [Option.mem_def.mp hc] at hnot
  exact hnot

theorem Stops.takeWhile_append (hback : Stops p back) (hfront : ∀ c ∈ front, p c = true) :
    (front ++ back).takeWhile p = front := by
  rw [List.takeWhile_append_of_pos hfront]
  cases back with
  | nil => exact List.append_nil front
  | cons c back =>
    rw [List.takeWhile_cons_of_neg (by simp [hback c rfl]), List.append_nil]

theorem Stops.dropWhile_append (hback : Stops p back) (hfront : ∀ c ∈ front, p c = true) :
    (front ++ back).dropWhile p = back := by
  rw [List.dropWhile_append_of_pos hfront]
  cases back with
  | nil => rfl
  | cons c back => exact List.dropWhile_cons_of_neg (by simp [hback c rfl])

/-- Every text is a run of characters of some kind and what stops it. -/
theorem exists_stops (p : Char → Bool) (text : List Char) :
    ∃ front back, (∀ c ∈ front, p c = true) ∧ Stops p back ∧ text = front ++ back :=
  ⟨text.takeWhile p, text.dropWhile p, fun _ hc => List.mem_takeWhile_imp hc,
    stops_dropWhile p text, List.takeWhile_append_dropWhile.symm⟩

theorem Stops.of_append (h : Stops p (front ++ back)) : Stops p front := by
  intro c hc
  refine h c ?_
  rw [List.head?_append, Option.mem_def.mp hc]
  rfl

theorem stops_append (hfront : Stops p front) (hne : front ≠ []) (back : List Char) :
    Stops p (front ++ back) := by
  intro c hc
  rw [List.head?_append_of_ne_nil _ hne] at hc
  exact hfront c hc

end

/-! ## Words -/

/-- A run without white space. -/
structure IsRun (word : List Char) : Prop where
  ne_nil : word ≠ []
  solid : ∀ c ∈ word, isBlank c = false

/-- A text that does not go on with the word before it. -/
def StartsBlank (text : List Char) : Prop :=
  ∀ c ∈ text.head?, isBlank c = true

variable {front back gap word rest text : List Char} {ws : List (List Char)}

/-- The words of two texts are those of both together, unless a word goes across the joint. -/
theorem words_append (h : ∀ c ∈ front.getLast?, ∀ d ∈ back.head?, isBlank c ≠ isBlank d) :
    words (front ++ back) = words front ++ words back := by
  rw [words, List.splitBy_append fun c hc d hd => beq_false_of_ne (h c hc d hd), List.filter_append]
  rfl

theorem words_eq_nil (hgap : Chain.IsGap gap) : words gap = [] := by
  rw [words, List.filter_eq_nil_iff]
  -- the runs are made of the characters of the text
  intro run hrun hany
  obtain ⟨c, hc, hsolid⟩ := List.any_eq_true.mp hany
  have hmem : c ∈ gap := by
    rw [← List.flatten_splitBy (fun a b => isBlank a == isBlank b) gap]
    exact List.mem_flatten.mpr ⟨run, hrun, hc⟩
  rw [hgap c hmem] at hsolid
  cases hsolid

theorem IsRun.words_eq (hword : IsRun word) : words word = [word] := by
  have hchain : word.IsChain fun a b => (isBlank a == isBlank b) = true :=
    (List.pairwise_of_forall_mem_list fun a ha b hb => by
      rw [hword.solid a ha, hword.solid b hb]; rfl).isChain
  obtain ⟨c, hc⟩ := List.exists_mem_of_ne_nil word hword.ne_nil
  rw [words, List.splitBy_of_isChain hword.ne_nil hchain, List.filter_cons_of_pos, List.filter_nil]
  exact List.any_eq_true.mpr ⟨c, hc, by rw [hword.solid c hc]; rfl⟩

/-- White space in front of a text makes no difference. -/
theorem words_gap_append (hgap : Chain.IsGap gap) (text : List Char) :
    words (gap ++ text) = words text := by
  -- the white space may go on in the text
  have hskip {gap : List Char} (hgap : Chain.IsGap gap) :
      words (gap ++ text.dropWhile isBlank) = words (text.dropWhile isBlank) := by
    rw [words_append, words_eq_nil hgap, List.nil_append]
    intro c hc d hd
    rw [hgap c (List.mem_of_getLast? hc), stops_dropWhile isBlank text d hd]
    exact Bool.false_ne_true.symm
  have htake : Chain.IsGap (text.takeWhile isBlank) := fun c hc => List.mem_takeWhile_imp hc
  have hboth : Chain.IsGap (gap ++ text.takeWhile isBlank) :=
    List.forall_mem_append.mpr ⟨hgap, htake⟩
  calc words (gap ++ text)
      = words (gap ++ text.takeWhile isBlank ++ text.dropWhile isBlank) := by
        rw [List.append_assoc, List.takeWhile_append_dropWhile]
    _ = words (text.takeWhile isBlank ++ text.dropWhile isBlank) := by
        rw [hskip hboth, hskip htake]
    _ = words text := by rw [List.takeWhile_append_dropWhile]

/-- The first word of a text, and the others. -/
theorem words_append_run (hgap : Chain.IsGap gap) (hword : IsRun word) (hrest : StartsBlank rest) :
    words (gap ++ word ++ rest) = word :: words rest := by
  rw [List.append_assoc, words_gap_append hgap, words_append, hword.words_eq,
    List.singleton_append]
  intro c hc d hd
  rw [hword.solid c (List.mem_of_getLast? hc), hrest d hd]
  exact Bool.false_ne_true

/-- A text has a first word, or there is nothing but white space in it. -/
theorem blank_or_run (text : List Char) : Chain.IsGap text ∨
    ∃ gap word rest, Chain.IsGap gap ∧ IsRun word ∧ StartsBlank rest ∧
      text = gap ++ word ++ rest := by
  obtain ⟨gap, back, hgap, hback, rfl⟩ := exists_stops isBlank text
  obtain ⟨word, rest, hword, hrest, rfl⟩ := exists_stops (!isBlank ·) back
  by_cases hne : word = []
  · -- nothing stands behind the white space
    subst hne
    cases rest with
    | nil => exact .inl (by rwa [List.append_nil, List.append_nil])
    | cons c rest =>
      have hsolid : (!isBlank c) = false := hrest c rfl
      rw [hback c rfl] at hsolid
      cases hsolid
  · exact .inr ⟨gap, word, rest, hgap, ⟨hne, fun c hc => by simpa using hword c hc⟩,
      fun c hc => by simpa using hrest c hc, (List.append_assoc _ _ _).symm⟩

theorem words_eq_cons_iff : words text = word :: ws ↔
    ∃ gap rest, Chain.IsGap gap ∧ IsRun word ∧ StartsBlank rest ∧ text = gap ++ word ++ rest ∧
      words rest = ws := by
  constructor
  · intro h
    rcases blank_or_run text with hgap | ⟨gap, word', rest, hgap, hword, hrest, rfl⟩
    · rw [words_eq_nil hgap] at h
      cases h
    · rw [words_append_run hgap hword hrest] at h
      obtain ⟨rfl, rfl⟩ := List.cons.inj h
      exact ⟨gap, rest, hgap, hword, hrest, rfl, rfl⟩
  · rintro ⟨gap, rest, hgap, hword, hrest, rfl, rfl⟩
    exact words_append_run hgap hword hrest

end Text

/-! ## Items -/

namespace Binding

/-- What stands behind a name that has an alias. -/
inductive Renames : List Char → List Char → Prop
  | mk {gap gap' asName rest : List Char} : Chain.IsGap gap → gap ≠ [] → Chain.IsGap gap' →
    gap' ≠ [] → Text.IsRun asName → Text.StartsBlank rest →
    Renames (gap ++ "as".toList ++ gap' ++ asName ++ rest) asName

/-- What a piece of a list of imports says: the name that it begins with, and its alias. -/
inductive Item : List Char → String → Option String → Prop
  | plain {gap name rest : List Char} : Chain.IsGap gap → Text.IsRun name → Text.StartsBlank rest →
    (∀ asName, ¬ Renames rest asName) → Item (gap ++ name ++ rest) (String.ofList name) none
  | renamed {gap name rest asName : List Char} : Chain.IsGap gap → Text.IsRun name →
    Renames rest asName →
    Item (gap ++ name ++ rest) (String.ofList name) (some (String.ofList asName))

variable {piece list gap name asName rest : List Char}

/-- A text that begins with white space is no part of the word before it. -/
theorem startsBlank_append (hgap : Chain.IsGap gap) (hne : gap ≠ []) (rest : List Char) :
    Text.StartsBlank (gap ++ rest) := by
  intro c hc
  rw [List.head?_append_of_ne_nil _ hne] at hc
  exact hgap c (List.mem_of_mem_head? hc)

theorem isRun_as : Text.IsRun "as".toList :=
  ⟨by decide, Chain.IsWord.isBlank (by decide)⟩

theorem Renames.startsBlank (h : Renames rest asName) : Text.StartsBlank rest := by
  obtain ⟨hgap, hne, -, -, -, -⟩ := h
  simp only [List.append_assoc]
  exact startsBlank_append hgap hne _

/-- A name has an alias iff the next word says so. -/
theorem renames_iff (hrest : Text.StartsBlank rest) :
    Renames rest asName ↔ ∃ ws, Text.words rest = "as".toList :: asName :: ws := by
  constructor
  · rintro @⟨gap, gap', _, rest, hgap, -, hgap', hne', hasName, hback⟩
    have hback' := startsBlank_append hgap' hne' (asName ++ rest)
    refine ⟨Text.words rest, ?_⟩
    rw [← Text.words_append_run hgap' hasName hback, List.append_assoc gap',
      ← Text.words_append_run hgap isRun_as hback']
    simp only [List.append_assoc]
  · rintro ⟨ws, hwords⟩
    obtain ⟨gap, back, hgap, -, hback, rfl, hnext⟩ := Text.words_eq_cons_iff.mp hwords
    obtain ⟨gap', back, hgap', hasName, hback', rfl, -⟩ := Text.words_eq_cons_iff.mp hnext
    -- two words do not stand side by side
    have hne : gap ≠ [] := by
      rintro rfl
      exact absurd (hrest 'a' rfl) (by decide)
    have hne' : gap' ≠ [] := by
      rintro rfl
      obtain ⟨c, hc⟩ := Option.isSome_iff_exists.mp (List.isSome_head?.mpr hasName.ne_nil)
      have hblank := hback c (by simp [List.head?_append, hc])
      rw [hasName.solid c (List.mem_of_mem_head? hc)] at hblank
      cases hblank
    have happend : gap ++ "as".toList ++ (gap' ++ asName ++ back) =
        gap ++ "as".toList ++ gap' ++ asName ++ back := by
      simp only [List.append_assoc]
    rw [happend]
    exact .mk hgap hne hgap' hne' hasName hback'

theorem item?_renamed (hgap : Chain.IsGap gap) (hname : Text.IsRun name)
    (hrest : Renames rest asName) :
    item? (gap ++ name ++ rest) = some (String.ofList name, some (String.ofList asName)) := by
  obtain ⟨ws, hwords⟩ := (renames_iff hrest.startsBlank).mp hrest
  rw [item?, Text.words_append_run hgap hname hrest.startsBlank, hwords]
  rfl

theorem item?_plain (hgap : Chain.IsGap gap) (hname : Text.IsRun name)
    (hrest : Text.StartsBlank rest) (hplain : ∀ asName, ¬ Renames rest asName) :
    item? (gap ++ name ++ rest) = some (String.ofList name, none) := by
  rw [item?, Text.words_append_run hgap hname hrest]
  -- only a third word can be an alias, and only if the second one says so
  match hwords : Text.words rest with
  | [] => rfl
  | [_] => rfl
  | word :: asName :: ws =>
    have has : String.ofList word ≠ "as" := by
      intro h
      have hword : word = "as".toList := by rw [← h, String.toList_ofList]
      exact hplain asName ((renames_iff hrest).mpr ⟨ws, hword ▸ hwords⟩)
    simp [has]

/-- A piece of a list is read as what it says. -/
theorem item?_eq_some_iff {name : String} {asName : Option String} :
    item? piece = some (name, asName) ↔ Item piece name asName := by
  constructor
  · intro h
    rcases Text.blank_or_run piece with hgap | ⟨gap, word, rest, hgap, hword, hrest, rfl⟩
    · rw [item?, Text.words_eq_nil hgap] at h
      cases h
    · by_cases hplain : ∀ asName, ¬ Renames rest asName
      · rw [item?_plain hgap hword hrest hplain] at h
        cases h
        exact .plain hgap hword hrest hplain
      · push Not at hplain
        obtain ⟨asName, hrenames⟩ := hplain
        rw [item?_renamed hgap hword hrenames] at h
        cases h
        exact .renamed hgap hword hrenames
  · rintro (⟨hgap, hname, hrest, hplain⟩ | ⟨hgap, hname, hrenames⟩)
    · exact item?_plain hgap hname hrest hplain
    · exact item?_renamed hgap hname hrenames

/-- The names in a list of imports are those that its pieces say. -/
theorem mem_splitNames_iff {name : String} {asName : Option String} :
    (name, asName) ∈ splitNames list ↔ ∃ piece ∈ Text.pieces ',' list, Item piece name asName := by
  simp only [splitNames, List.mem_filterMap, item?_eq_some_iff]

end Binding

end Playground
