import Playground.Proofs.Completion.Joint

/-!
# Dotted names taken apart

The scan of a text goes back over links, which are names with a dot after each, until there is no
dot, or no name before it. So the chain at the end of a text is made of the links there and of the
word after them, whatever stands in front.

- `Link`: a name and a dot with the white space around it.
- `Reads` and `Unreadable`: the texts that have a chain at their end, with that chain, and those that
  have none.
- `scan_linksText`: links are scanned one by one, whatever comes of the text in front of them.
- `exists_links`: every text has links at its end, and in front of them no dot or no name.
- `before?_parses`: every text is of one of the two kinds, and scanned as what it is.
-/

namespace Playground.Chain

/-- A link of a dotted name: a name with a dot after it, and white space around the dot. -/
structure Link where
  name : List Char
  gap : List Char
  gap' : List Char
  named : IsNamed name
  isGap : IsGap gap
  isGap' : IsGap gap'

/-- The text of a link. -/
def Link.text (l : Link) : List Char :=
  l.name ++ l.gap ++ '.' :: l.gap'

/-- The name of a link. -/
def Link.word (l : Link) : String :=
  String.ofList l.name

/-- The text of links, one behind the other. -/
def linksText (ls : List Link) : List Char :=
  ls.flatMap Link.text

/-- A word that starts with a digit. -/
def StartsInDigit (word : List Char) : Prop :=
  ∃ c ∈ word.head?, Text.isDecimal c = true

instance (word : List Char) : Decidable (StartsInDigit word) :=
  decidable_of_iff (word.head?.any Text.isDecimal = true) (by simp [StartsInDigit, Option.any_eq_true])

/-- What stands in front of a dotted name. -/
structure IsContext (text : List Char) : Prop where
  clear : IsClear text
  dotless : ¬ EndsInDot text

/-- A text that ends in a dot, before which there is no word, or one that starts with a digit. -/
inductive EndsNameless : List Char → Prop
  | mk {front word gap gap' : List Char} : IsClear front → IsWord word →
    word = [] ∨ StartsInDigit word → (∀ c ∈ (front ++ word).getLast?, Text.isBlank c = false) →
    IsGap gap → IsGap gap' → EndsNameless (front ++ word ++ gap ++ '.' :: gap')

/-- The texts with a chain at the end: links and a word, which is no numeral unless it is behind a
dot. -/
inductive Reads : List Char → Chain → Prop
  | mk {context word : List Char} (ls : List Link) : IsContext context → IsWord word →
    (ls = [] → ¬ StartsInDigit word) →
    Reads (context ++ linksText ls ++ word) ⟨ls.map Link.word, String.ofList word⟩

/-- The texts without one. -/
inductive Unreadable : List Char → Prop
  /-- Behind links, going back, there is a dot without a name before it. -/
  | nameless {front word : List Char} (ls : List Link) : EndsNameless front → IsWord word →
    Unreadable (front ++ linksText ls ++ word)
  /-- There is no dot, and the word is a numeral. -/
  | numeral {context word : List Char} : IsContext context → IsWord word → StartsInDigit word →
    Unreadable (context ++ word)

variable {text front word : List Char}

/-! ## Names -/

theorem isName_eq_false_iff : isName word = false ↔ word = [] ∨ StartsInDigit word := by
  cases word <;> simp [isName, StartsInDigit]

theorem EndsNameless.isClear (h : EndsNameless text) : IsClear text := by
  cases h with
  | mk _ _ _ _ _ hgap' => exact isClear_dot _ hgap'

theorem EndsNameless.scan_eq (h : EndsNameless text) : scan text = none := by
  cases h with
  | mk hfront hword hnameless hblank hgap hgap' =>
    refine (Scans.nameless hblank ?_ hgap hgap').scan_eq
    rw [rtakeWhile_append hword hfront]
    exact isName_eq_false_iff.mpr hnameless

theorem IsContext.scan_eq (h : IsContext text) : scan text = some [] :=
  (Scans.stop h.dotless).scan_eq

/-! ## Links -/

@[simp] theorem linksText_nil : linksText [] = [] := rfl

theorem linksText_concat (ls : List Link) (l : Link) :
    linksText (ls ++ [l]) = linksText ls ++ l.text := by
  rw [linksText, List.flatMap_append, List.flatMap_singleton, ← linksText]

/-- Behind links a text does not end within a word. -/
theorem isClear_linksText (ls : List Link) : IsClear (linksText ls) := by
  rcases List.eq_nil_or_concat ls with rfl | ⟨ls, l, rfl⟩
  · nofun
  · rw [List.concat_eq_append, linksText_concat, Link.text, ← List.append_assoc]
    exact isClear_dot _ l.isGap'

/-- The scan of a text with links behind it finds their names, and goes on in front of them. -/
theorem scan_linksText (hfront : IsClear front) (ls : List Link) :
    scan (front ++ linksText ls) = (scan front).map (· ++ ls.map Link.word) := by
  -- the scan takes the last link first
  induction ls using List.reverseRecOn with
  | nil => simp
  | append_singleton ls l ih =>
    have hclear := isClear_append hfront (isClear_linksText ls)
    calc scan (front ++ linksText (ls ++ [l]))
        = scan (front ++ linksText ls ++ l.name ++ l.gap ++ '.' :: l.gap') := by
          rw [linksText_concat, Link.text]
          simp only [List.append_assoc]
      _ = (scan (front ++ linksText ls)).map (· ++ [l.word]) :=
          scan_link hclear l.named l.isGap l.isGap'
      _ = (scan front).map (· ++ (ls ++ [l]).map Link.word) := by
          rw [ih, Option.map_map, List.map_append]
          simp only [Function.comp_def, List.append_assoc]
          rfl

/-- Going back over the links at the end of a text, one comes to a place where there is no dot, or
no name before it. -/
theorem exists_links (hclear : IsClear text) : ∃ front ls, text = front ++ linksText ls ∧
    (IsContext front ∨ EndsNameless front) := by
  obtain ⟨base, hscans⟩ := exists_scans text
  induction hscans with
  | stop hstop => exact ⟨_, [], (List.append_nil _).symm, .inl ⟨hclear, hstop⟩⟩
  | @nameless text gap gap' hblank hnameless hgap hgap' =>
    refine ⟨_, [], (List.append_nil _).symm, .inr ?_⟩
    obtain ⟨front, word, rfl, hword, hfront⟩ := exists_cut Text.isWord text
    rw [rtakeWhile_append hword hfront, isName_eq_false_iff] at hnameless
    exact .mk hfront hword hnameless hblank hgap hgap'
  | @link text name gap gap' base _ htext hname hgap hgap' ih =>
    obtain ⟨front, ls, rfl, hfront⟩ := ih htext
    refine ⟨front, ls ++ [⟨name, gap, gap', hname, hgap, hgap'⟩], ?_, hfront⟩
    rw [linksText_concat, Link.text]
    simp only [List.append_assoc]

/-! ## Chains -/

/-- A word is refused iff it is a numeral and not behind a dot. -/
theorem ofScan_some_eq (names : List String) (word : List Char) :
    ofScan (some names) word =
      if names = [] ∧ StartsInDigit word then none else some ⟨names, String.ofList word⟩ := by
  have hcondition : (names.isEmpty && !word.isEmpty && !isName word) = true ↔
      names = [] ∧ StartsInDigit word := by
    cases word with
    | nil => simp [StartsInDigit]
    | cons c rest => simp [StartsInDigit, isName]
  simp only [ofScan, Option.bind_some, hcondition]

/-- The chain of a text that has one, whatever stands in front of it. -/
theorem Reads.before?_eq {c : Chain} (h : Reads text c) : before? text = some c := by
  cases h with
  | mk ls hcontext hword hnumeral =>
    rw [before?_append (isClear_append hcontext.clear (isClear_linksText ls)) hword,
      scan_linksText hcontext.clear, hcontext.scan_eq]
    refine (ofScan_some_eq _ _).trans (if_neg ?_)
    rintro ⟨hnil, hdigit⟩
    exact hnumeral (List.map_eq_nil_iff.mp hnil) hdigit

theorem Unreadable.before?_eq (h : Unreadable text) : before? text = none := by
  cases h with
  | nameless ls hfront hword =>
    rw [before?_append (isClear_append hfront.isClear (isClear_linksText ls)) hword,
      scan_linksText hfront.isClear, hfront.scan_eq]
    rfl
  | numeral hcontext hword hnumeral =>
    rw [before?_append hcontext.clear hword, hcontext.scan_eq, ofScan_some_eq]
    exact if_pos ⟨rfl, hnumeral⟩

/-- Every text has a chain at its end, or none. -/
theorem reads_or_unreadable (text : List Char) : (∃ c, Reads text c) ∨ Unreadable text := by
  obtain ⟨front, word, rfl, hword, hclear⟩ := exists_cut Text.isWord text
  obtain ⟨context, ls, rfl, hcontext | hnameless⟩ := exists_links hclear
  · by_cases hnumeral : ls = [] ∧ StartsInDigit word
    · obtain ⟨rfl, hdigit⟩ := hnumeral
      rw [linksText_nil, List.append_nil]
      exact .inr (.numeral hcontext hword hdigit)
    · exact .inl ⟨_, .mk ls hcontext hword fun hnil hdigit => hnumeral ⟨hnil, hdigit⟩⟩
  · exact .inr (.nameless ls hnameless hword)

/-- The scan of a text ends with a chain iff the text has one, which is that chain, and without one
iff it has none. Every text is of one of the two kinds. -/
theorem before?_parses (text : List Char) :
    (∀ c, before? text = some c ↔ Reads text c) ∧ (before? text = none ↔ Unreadable text) ∧
      ((∃ c, Reads text c) ∨ Unreadable text) := by
  have hkinds := reads_or_unreadable text
  refine ⟨fun c => ⟨fun hsome => ?_, Reads.before?_eq⟩, ⟨fun hnone => ?_, Unreadable.before?_eq⟩,
    hkinds⟩
  · rcases hkinds with ⟨c', hc'⟩ | hunreadable
    · obtain rfl := Option.some.inj (hc'.before?_eq.symm.trans hsome)
      exact hc'
    · rw [hunreadable.before?_eq] at hsome
      cases hsome
  · rcases hkinds with ⟨c', hc'⟩ | hunreadable
    · rw [hc'.before?_eq] at hnone
      cases hnone
    · exact hunreadable

end Playground.Chain
