import Mathlib.Data.List.DropRight
import Playground.Completion.Chain
import Playground.Proofs.Text.Word

/-!
# What stands before a cursor

The words in front of the dots that end a text, told from the front to the back. The scan goes over
as many links as there are, and a dot without a name before it spoils all of them.

- `Scans`: what the scan of a text comes to, with one constructor for each way to end or go on.
- `scans_iff`: the scan comes to that and to nothing else.
- `before?_append`: the chain at the end of a text, by the scan of what stands before its last word.
-/

namespace Playground.Chain

/-- Nothing but white space. -/
def IsGap (text : List Char) : Prop :=
  ∀ c ∈ text, Text.isBlank c = true

/-- Nothing but letters. -/
def IsWord (text : List Char) : Prop :=
  ∀ c ∈ text, Text.isWord c = true

/-- A word that can stand before a dot. -/
structure IsNamed (word : List Char) : Prop where
  letters : IsWord word
  named : isName word = true

/-- Whether a text does not end within a word. -/
def IsClear (text : List Char) : Prop :=
  ∀ c ∈ text.getLast?, Text.isWord c = false

/-- Whether the last character of a text that is no white space is a dot. -/
def EndsInDot (text : List Char) : Prop :=
  (text.rdropWhile Text.isBlank).getLast? = some '.'

instance (text : List Char) : Decidable (IsGap text) :=
  decidable_of_iff (text.all Text.isBlank = true) List.all_eq_true

instance (text : List Char) : Decidable (IsWord text) :=
  decidable_of_iff (text.all Text.isWord = true) List.all_eq_true

instance (text : List Char) : Decidable (IsClear text) :=
  decidable_of_iff (text.getLast?.all (!Text.isWord ·) = true) (by simp [IsClear, Option.all_eq_true])

instance (text : List Char) : Decidable (EndsInDot text) :=
  inferInstanceAs (Decidable (_ = _))

/-- The words in front of the dots that end a text. -/
def scan (text : List Char) : Option (List String) :=
  links text.reverse []

/-- What the scan of a text comes to. -/
inductive Scans : List Char → Option (List String) → Prop
  /-- There is no dot at the end. -/
  | stop {text : List Char} : ¬ EndsInDot text → Scans text (some [])
  /-- There is one, but no name before it. -/
  | nameless {text gap gap' : List Char} : (∀ c ∈ text.getLast?, Text.isBlank c = false) →
    isName (text.rtakeWhile Text.isWord) = false → IsGap gap → IsGap gap' →
    Scans (text ++ gap ++ '.' :: gap') none
  /-- There is a name before it, and before that whatever there is. -/
  | link {text name gap gap' : List Char} {base : Option (List String)} : Scans text base →
    IsClear text → IsNamed name → IsGap gap → IsGap gap' →
    Scans (text ++ name ++ gap ++ '.' :: gap') (base.map (· ++ [String.ofList name]))

/-! ## The end of a text -/

section

variable {p : Char → Bool} {front back : List Char}

/-- A text is cut where a run of characters of some kind begins that goes to its end. -/
theorem reverse_cut (hback : ∀ c ∈ back, p c = true) (hfront : ∀ c ∈ front.getLast?, p c = false) :
    (front ++ back).reverse.takeWhile p = back.reverse ∧
      (front ++ back).reverse.dropWhile p = front.reverse := by
  have hreverse : ∀ c ∈ back.reverse, p c = true := fun c hc => hback c (List.mem_reverse.mp hc)
  rw [List.reverse_append, List.takeWhile_append_of_pos hreverse,
    List.dropWhile_append_of_pos hreverse]
  rw [← List.head?_reverse] at hfront
  cases hstop : front.reverse with
  | nil => exact ⟨List.append_nil _, rfl⟩
  | cons c rest =>
    rw [hstop] at hfront
    have hc : ¬ p c = true := by
      rw [hfront c rfl]
      exact Bool.false_ne_true
    rw [List.takeWhile_cons_of_neg hc, List.dropWhile_cons_of_neg hc, List.append_nil]
    exact ⟨rfl, rfl⟩

theorem rtakeWhile_append (hback : ∀ c ∈ back, p c = true)
    (hfront : ∀ c ∈ front.getLast?, p c = false) : (front ++ back).rtakeWhile p = back := by
  rw [List.rtakeWhile, (reverse_cut hback hfront).1, List.reverse_reverse]

theorem rdropWhile_append (hback : ∀ c ∈ back, p c = true)
    (hfront : ∀ c ∈ front.getLast?, p c = false) : (front ++ back).rdropWhile p = front := by
  rw [List.rdropWhile, (reverse_cut hback hfront).2, List.reverse_reverse]

/-- What is left when a run is cut off does not end in a character of that kind. -/
theorem getLast?_rdropWhile : ∀ c ∈ (front.rdropWhile p).getLast?, p c = false := by
  intro c hc
  rw [List.rdropWhile, List.getLast?_reverse] at hc
  have hnot := List.head?_dropWhile_not p front.reverse
  rw [Option.mem_def.mp hc] at hnot
  simpa using hnot

end

variable {text name gap gap' : List Char} {base : Option (List String)}

theorem isBlank_dot : Text.isBlank '.' = false := by decide

theorem IsNamed.ne_nil (hname : IsNamed name) : name ≠ [] := by
  rintro rfl
  exact Bool.false_ne_true hname.named

/-- A letter is no white space. -/
theorem IsWord.isBlank (hword : IsWord name) : ∀ c ∈ name, Text.isBlank c = false := by
  intro c hc
  rw [← Bool.not_eq_true]
  intro hblank
  have hletter := hword c hc
  rw [Text.isWord_of_isBlank hblank] at hletter
  cases hletter

/-- A text that ends in a name does not end in white space. -/
theorem IsNamed.isBlank_getLast? (hname : IsNamed name) :
    ∀ c ∈ (text ++ name).getLast?, Text.isBlank c = false := by
  intro c hc
  rw [List.getLast?_append_of_ne_nil _ hname.ne_nil] at hc
  exact hname.letters.isBlank c (List.mem_of_getLast? hc)

theorem endsInDot_iff : EndsInDot text ↔ ∃ front gap, IsGap gap ∧ text = front ++ '.' :: gap := by
  constructor
  · intro h
    obtain ⟨front, hfront⟩ := List.getLast?_eq_some_iff.mp h
    refine ⟨front, text.rtakeWhile Text.isBlank, fun c hc => List.mem_rtakeWhile_imp hc, ?_⟩
    rw [← List.singleton_append, ← List.append_assoc, ← hfront]
    exact List.rdropWhile_append_rtakeWhile.symm
  · rintro ⟨front, gap, hgap, rfl⟩
    rw [EndsInDot, ← List.singleton_append, ← List.append_assoc,
      rdropWhile_append hgap (by simp [isBlank_dot]), List.getLast?_concat]

/-! ## The scan -/

/-- Without a dot at the end the scan is over. -/
theorem links_of_not_endsInDot (h : ¬ EndsInDot text) (found : List String) :
    links text.reverse found = some found := by
  rw [links]
  split
  · rename_i before hdrop
    refine absurd ?_ h
    rw [EndsInDot, List.rdropWhile, hdrop, List.reverse_cons, List.getLast?_concat]
  · rfl

/-- With one, it goes on before the word in front of the dot. -/
theorem links_dot (htext : ∀ c ∈ text.getLast?, Text.isBlank c = false) (hgap : IsGap gap)
    (hgap' : IsGap gap') (found : List String) :
    links (text ++ gap ++ '.' :: gap').reverse found =
      if isName (text.rtakeWhile Text.isWord) = true then
        links (text.rdropWhile Text.isWord).reverse
          (String.ofList (text.rtakeWhile Text.isWord) :: found)
      else none := by
  have hdrop : (text ++ gap ++ '.' :: gap').reverse.dropWhile Text.isBlank =
      '.' :: (text ++ gap).reverse := by
    rw [← List.singleton_append, ← List.append_assoc,
      (reverse_cut hgap' (by simp [isBlank_dot])).2, List.reverse_concat]
  rw [links]
  split
  · rename_i before hbefore
    rw [hdrop] at hbefore
    obtain ⟨-, rfl⟩ := List.cons.inj hbefore
    rw [(reverse_cut hgap htext).2, List.rdropWhile, List.reverse_reverse]
    rfl
  · rename_i hother
    exact absurd hdrop (hother _)

theorem links_named (htext : IsClear text) (hname : IsNamed name) (hgap : IsGap gap)
    (hgap' : IsGap gap') (found : List String) :
    links (text ++ name ++ gap ++ '.' :: gap').reverse found =
      links text.reverse (String.ofList name :: found) := by
  rw [links_dot hname.isBlank_getLast? hgap hgap', rtakeWhile_append hname.letters htext,
    rdropWhile_append hname.letters htext, if_pos hname.named]

/-- The scan puts what it finds in front of what it has found already. -/
theorem Scans.links_eq (h : Scans text base) (found : List String) :
    links text.reverse found = base.map (· ++ found) := by
  induction h generalizing found with
  | stop hstop => exact links_of_not_endsInDot hstop found
  | nameless htext hnameless hgap hgap' =>
    rw [links_dot htext hgap hgap', hnameless, if_neg Bool.false_ne_true]
    rfl
  | @link text name _ _ base _ htext hname hgap hgap' ih =>
    rw [links_named htext hname hgap hgap', ih, Option.map_map]
    congr 1
    funext words
    exact (List.append_assoc words [_] found).symm

theorem Scans.scan_eq (h : Scans text base) : scan text = base := by
  rw [scan, h.links_eq]
  simp

/-- A text is what is left when the run at its end is cut off, and that run. -/
theorem exists_cut (p : Char → Bool) (text : List Char) : ∃ front back,
    text = front ++ back ∧ (∀ c ∈ back, p c = true) ∧ ∀ c ∈ front.getLast?, p c = false :=
  ⟨text.rdropWhile p, text.rtakeWhile p, List.rdropWhile_append_rtakeWhile.symm,
    fun _ => List.mem_rtakeWhile_imp, getLast?_rdropWhile⟩

/-- Every text has a scan. -/
theorem exists_scans (text : List Char) : ∃ base, Scans text base := by
  induction hlength : text.length using Nat.strong_induction_on generalizing text with
  | _ n ih =>
    by_cases hdot : EndsInDot text
    · obtain ⟨front, gap', hgap', rfl⟩ := endsInDot_iff.mp hdot
      obtain ⟨front, gap, rfl, hgap, hfront⟩ := exists_cut Text.isBlank front
      cases hnamed : isName (front.rtakeWhile Text.isWord) with
      | false => exact ⟨_, .nameless hfront hnamed hgap hgap'⟩
      | true =>
        obtain ⟨earlier, name, rfl, hletters, hearlier⟩ := exists_cut Text.isWord front
        rw [rtakeWhile_append hletters hearlier] at hnamed
        obtain ⟨base, hbase⟩ := ih _ (by simp at hlength; omega) earlier rfl
        exact ⟨_, hbase.link hearlier ⟨hletters, hnamed⟩ hgap hgap'⟩
    · exact ⟨_, .stop hdot⟩

theorem scans_iff : Scans text base ↔ scan text = base := by
  obtain ⟨other, hother⟩ := exists_scans text
  rw [hother.scan_eq]
  constructor
  · intro h
    exact hother.scan_eq.symm.trans h.scan_eq
  · rintro rfl
    exact hother

/-! ## Chains -/

/-- The chain with a base and a word after it. -/
def ofScan (base : Option (List String)) (word : List Char) : Option Chain :=
  base.bind fun words =>
    if words.isEmpty && !word.isEmpty && !isName word then none
    else some ⟨words, String.ofList word⟩

/-- The chain at the end of a text is made of the word there and the scan of what stands before
it. -/
theorem before?_append {word : List Char} (htext : IsClear text) (hword : IsWord word) :
    before? (text ++ word) = ofScan (scan text) word := by
  obtain ⟨htake, hdrop⟩ := reverse_cut hword htext
  unfold before?
  dsimp only
  rw [htake, hdrop, List.reverse_reverse, ← scan]
  cases scan text <;> rfl

end Playground.Chain
