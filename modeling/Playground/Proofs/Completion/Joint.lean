import Playground.Proofs.Completion.Chain

/-!
# Dotted names across a joint

A text that stands behind another one has the same chain at its end as it has alone, unless a dotted
name goes across the joint: the scan comes to the first character of the text, and there is a dot on
one side of the joint or the other.

- `Opening`: the texts that a scan goes through to the first character.
- `Joins`: what it is for a dotted name to go across a joint.
- `before?_append_of_not_joins`: without one, what stands in front makes no difference.
- `Joins.before?_eq_none`: with one it does, or there was no chain in the first place.
-/

namespace Playground.Chain

/-- Whether the first character of a text that is no white space is a dot. -/
def StartsInDot (text : List Char) : Prop :=
  (text.dropWhile Text.isBlank).head? = some '.'

instance (text : List Char) : Decidable (StartsInDot text) :=
  inferInstanceAs (Decidable (_ = _))

/-- What can stand in front of the last word of a dotted name, from the first character of a text:
names with a dot after each. Before the first name there can be one more dot. -/
inductive Opening : List Char → Prop
  | gap {gap : List Char} : IsGap gap → Opening gap
  | dot {gap gap' : List Char} : IsGap gap → IsGap gap' → Opening (gap ++ '.' :: gap')
  | link {text name gap gap' : List Char} : Opening text → IsNamed name → IsGap gap →
    IsGap gap' → Opening (text ++ name ++ gap ++ '.' :: gap')

/-- A dotted name goes across the joint of a text with what stands in front of it. The text is part
of one from its first character on, and there is a dot on one side of the joint. -/
inductive Joins (front : List Char) : List Char → Prop
  | mk {opening word : List Char} : Opening opening → IsWord word →
    StartsInDot opening ∨ EndsInDot front → Joins front (opening ++ word)

variable {front text name gap gap' : List Char} {base : Option (List String)}

/-! ## Texts one behind the other -/

theorem isWord_dot : Text.isWord '.' = false := by decide

theorem isClear_append (hfront : IsClear front) (htext : IsClear text) :
    IsClear (front ++ text) := by
  intro c hc
  rw [List.getLast?_append] at hc
  cases hlast : text.getLast? with
  | none =>
    rw [hlast] at hc
    exact hfront c hc
  | some d =>
    rw [hlast] at hc
    exact htext c (hlast ▸ hc)

/-- Behind a text that does not end within a word, the run of letters at the end of another one is
what it is alone. -/
theorem rtakeWhile_isWord_append (hfront : IsClear front) (text : List Char) :
    (front ++ text).rtakeWhile Text.isWord = text.rtakeWhile Text.isWord := by
  obtain ⟨earlier, word, rfl, hword, hearlier⟩ := exists_cut Text.isWord text
  rw [← List.append_assoc, rtakeWhile_append hword (isClear_append hfront hearlier),
    rtakeWhile_append hword hearlier]

theorem endsInDot_append_gap (hgap : IsGap gap) : EndsInDot (text ++ gap) ↔ EndsInDot text := by
  rw [EndsInDot, EndsInDot, List.rdropWhile, List.rdropWhile, List.reverse_append,
    List.dropWhile_append_of_pos fun c hc => hgap c (List.mem_reverse.mp hc)]

/-- A dot at the end of a text behind another one is one of the text, or else the text is nothing
but white space. -/
theorem endsInDot_append (h : EndsInDot (front ++ text)) :
    EndsInDot text ∨ (IsGap text ∧ EndsInDot front) := by
  obtain ⟨earlier, gap, rfl, hgap, hearlier⟩ := exists_cut Text.isBlank text
  rw [← List.append_assoc, endsInDot_append_gap hgap] at h
  rw [endsInDot_append_gap hgap]
  obtain rfl | hne := eq_or_ne earlier []
  · rw [List.append_nil] at h
    exact .inr ⟨hgap, h⟩
  · -- what ends the text is no white space, so that nothing is cut off
    have hself {t : List Char} (ht : ∀ c ∈ t.getLast?, Text.isBlank c = false) :
        EndsInDot t ↔ t.getLast? = some '.' := by
      rw [EndsInDot, ← List.append_nil t, rdropWhile_append (List.forall_mem_nil _) ht, List.append_nil]
    have hlast : (front ++ earlier).getLast? = earlier.getLast? :=
      List.getLast?_append_of_ne_nil _ hne
    rw [hself (by rwa [hlast]), hlast] at h
    exact .inl ((hself hearlier).mpr h)

/-! ## Dots in front -/

/-- What stands behind a text makes no difference to a dot in front, unless the text is nothing but
white space. -/
theorem startsInDot_append_iff (htext : ¬ IsGap text) (back : List Char) :
    StartsInDot (text ++ back) ↔ StartsInDot text := by
  have hrest : text.dropWhile Text.isBlank ≠ [] := by
    rwa [ne_eq, List.dropWhile_eq_nil_iff]
  rw [StartsInDot, StartsInDot, List.dropWhile_append, if_neg (by simpa using hrest),
    List.head?_append_of_ne_nil _ hrest]

theorem not_startsInDot_of_isGap (hgap : IsGap gap) : ¬ StartsInDot gap := by
  rw [StartsInDot, List.dropWhile_eq_nil_iff.mpr hgap]
  nofun

/-- A dot in front is not one that stands behind a name. -/
theorem startsInDot_of_named (hname : IsNamed name) {back : List Char}
    (h : StartsInDot (text ++ (name ++ back))) : StartsInDot text := by
  by_cases hgap : IsGap text
  · obtain ⟨c, letters, rfl⟩ := List.exists_cons_of_ne_nil hname.ne_nil
    have hletter := hname.letters c List.mem_cons_self
    have hblank := hname.letters.isBlank c List.mem_cons_self
    rw [StartsInDot, List.dropWhile_append_of_pos hgap, List.cons_append,
      List.dropWhile_cons_of_neg (by rw [hblank]; exact Bool.false_ne_true)] at h
    obtain rfl := Option.some.inj h
    rw [isWord_dot] at hletter
    cases hletter
  · exact (startsInDot_append_iff hgap _).mp h

/-- Without a dot at the joint no name goes across it. -/
theorem Joins.dot (h : Joins front text) : StartsInDot text ∨ EndsInDot front := by
  cases h with
  | mk _ _ hdot =>
    refine hdot.imp_left fun hstarts => ?_
    exact (startsInDot_append_iff (fun hgap => not_startsInDot_of_isGap hgap hstarts) _).mpr hstarts

/-! ## The scan of a text behind another one -/

theorem IsGap.isClear (hgap : IsGap gap) : IsClear gap :=
  fun c hc => Text.isWord_of_isBlank (hgap c (List.mem_of_getLast? hc))

theorem isClear_dot (front : List Char) (hgap : IsGap gap) : IsClear (front ++ '.' :: gap) := by
  have hdot : IsClear (front ++ ['.']) := by
    intro c hc
    rw [List.getLast?_concat] at hc
    obtain rfl := Option.some.inj hc
    exact isWord_dot
  rw [← List.singleton_append, ← List.append_assoc]
  exact isClear_append hdot hgap.isClear

theorem Opening.isClear (h : Opening text) : IsClear text := by
  cases h with
  | gap hgap => exact hgap.isClear
  | dot _ hgap' => exact isClear_dot _ hgap'
  | link _ _ _ hgap' => exact isClear_dot _ hgap'

/-- Behind a text that does not end within a word, the scan of a text comes to the same, unless it
goes through to the first character and there is a dot at the joint. -/
theorem Scans.append (hfront : IsClear front) (h : Scans text base) :
    Scans (front ++ text) base ∨
      (Opening text ∧ (StartsInDot text ∨ EndsInDot front)) := by
  induction h with
  | @stop text hstop =>
    by_cases hdot : EndsInDot (front ++ text)
    · rcases endsInDot_append hdot with hown | ⟨hgap, hleft⟩
      · exact absurd hown hstop
      · exact .inr ⟨.gap hgap, .inr hleft⟩
    · exact .inl (.stop hdot)
  | @nameless text gap gap' htext hnameless hgap hgap' =>
    obtain rfl | hne := eq_or_ne text []
    · refine .inr ⟨.dot hgap hgap', .inl ?_⟩
      rw [List.nil_append, StartsInDot, List.dropWhile_append_of_pos hgap,
        List.dropWhile_cons_of_neg (by simp [isBlank_dot])]
      rfl
    · left
      rw [← List.append_assoc, ← List.append_assoc]
      refine .nameless ?_ ?_ hgap hgap'
      · rwa [List.getLast?_append_of_ne_nil _ hne]
      · rwa [rtakeWhile_isWord_append hfront]
  | @link text name gap gap' base _ hclear hname hgap hgap' ih =>
    rcases ih with hsame | ⟨hopening, hdot⟩
    · left
      rw [← List.append_assoc, ← List.append_assoc, ← List.append_assoc]
      exact hsame.link (isClear_append hfront hclear) hname hgap hgap'
    · refine .inr ⟨hopening.link hname hgap hgap', hdot.imp_left fun hstarts => ?_⟩
      have hnotGap : ¬ IsGap text := fun hgap => not_startsInDot_of_isGap hgap hstarts
      rw [List.append_assoc, List.append_assoc]
      exact (startsInDot_append_iff hnotGap _).mpr hstarts

theorem scan_link (htext : IsClear text) (hname : IsNamed name) (hgap : IsGap gap)
    (hgap' : IsGap gap') :
    scan (text ++ name ++ gap ++ '.' :: gap') = (scan text).map (· ++ [String.ofList name]) :=
  (Scans.link (scans_iff.mpr rfl) htext hname hgap hgap').scan_eq

theorem scan_dot (hgap : IsGap gap) (hgap' : IsGap gap') : scan (gap ++ '.' :: gap') = none := by
  have hscans : Scans ([] ++ gap ++ '.' :: gap') none := .nameless (fun _ => nofun) rfl hgap hgap'
  exact hscans.scan_eq

/-- There is no name before a dot in front. -/
theorem scan_eq_none_of_startsInDot (h : Opening text) (hdot : StartsInDot text) :
    scan text = none := by
  induction h with
  | gap hgap => exact absurd hdot (not_startsInDot_of_isGap hgap)
  | dot hgap hgap' => exact scan_dot hgap hgap'
  | link hopening hname hgap hgap' ih =>
    rw [List.append_assoc, List.append_assoc] at hdot
    rw [scan_link hopening.isClear hname hgap hgap', ih (startsInDot_of_named hname hdot)]
    rfl

/-- A dot at the end is followed up. -/
theorem scan_ne_nil (h : EndsInDot text) : scan text ≠ some [] := by
  obtain ⟨base, hbase⟩ := exists_scans text
  rw [hbase.scan_eq]
  cases hbase with
  | stop hstop => exact absurd h hstop
  | nameless => nofun
  | @link _ _ _ _ base =>
    cases base with
    | none => nofun
    | some words => simp

/-- If there is a dot at the joint, then a text through which the scan goes has another scan behind
the text in front, or none in both cases. -/
theorem Opening.scan_eq_none (hfront : IsClear front) (h : Opening text)
    (hdot : StartsInDot text ∨ EndsInDot front) (hsame : scan (front ++ text) = scan text) :
    scan text = none := by
  rcases hdot with hstarts | hends
  · exact scan_eq_none_of_startsInDot h hstarts
  · induction h with
    | @gap gap hgap =>
      have halone : scan gap = some [] := by
        refine (Scans.stop fun hdot => ?_).scan_eq
        rw [← List.nil_append gap, endsInDot_append_gap hgap] at hdot
        exact nomatch hdot
      rw [halone] at hsame
      exact absurd hsame (scan_ne_nil ((endsInDot_append_gap hgap).mpr hends))
    | dot hgap hgap' => exact scan_dot hgap hgap'
    | @link text name gap gap' hopening hname hgap hgap' ih =>
      rw [← List.append_assoc, ← List.append_assoc, ← List.append_assoc,
        scan_link (isClear_append hfront hopening.isClear) hname hgap hgap',
        scan_link hopening.isClear hname hgap hgap'] at hsame
      have hinjective : Function.Injective fun words : List String => words ++ [String.ofList name] :=
        List.append_left_injective _
      rw [scan_link hopening.isClear hname hgap hgap', ih (Option.map_injective hinjective hsame)]
      rfl

/-! ## The chain of a text behind another one -/

/-- A text has the same chain behind another one as alone, unless a dotted name goes across. -/
theorem before?_append_of_not_joins (hfront : IsClear front) (h : ¬ Joins front text) :
    before? (front ++ text) = before? text := by
  obtain ⟨stem, word, rfl, hword, hstem⟩ := exists_cut Text.isWord text
  have hsame : scan (front ++ stem) = scan stem := by
    rcases Scans.append hfront (scans_iff.mpr rfl) with hsame | ⟨hopening, hdot⟩
    · exact hsame.scan_eq
    · exact absurd (.mk hopening hword hdot) h
  rw [← List.append_assoc, before?_append (isClear_append hfront hstem) hword,
    before?_append hstem hword, hsame]

/-- A chain tells the scan that it is made of. -/
theorem ofScan_injective {base other : Option (List String)} {word : List Char} {c : Chain}
    (hbase : ofScan base word = some c) (hother : ofScan other word = some c) : base = other := by
  have htold {words? : Option (List String)} (h : ofScan words? word = some c) :
      words? = some c.base := by
    obtain ⟨words, rfl, hwords⟩ := Option.bind_eq_some_iff.mp h
    split at hwords
    · cases hwords
    · obtain rfl := Option.some.inj hwords
      rfl
  exact (htold hbase).trans (htold hother).symm

/-- Where a dotted name goes across, the chains are different ones, unless there is none either
way. -/
theorem Joins.before?_eq_none (hfront : IsClear front) (h : Joins front text)
    (hsame : before? (front ++ text) = before? text) : before? text = none := by
  cases h with
  | @mk opening word hopening hword hdot =>
    rw [← List.append_assoc, before?_append (isClear_append hfront hopening.isClear) hword,
      before?_append hopening.isClear hword] at hsame
    rw [before?_append hopening.isClear hword, Option.eq_none_iff_forall_ne_some]
    intro c hc
    have hscan := ofScan_injective (hsame.trans hc) hc
    rw [hopening.scan_eq_none hfront hdot hscan] at hc
    cases hc

/-- The rest of the last word makes no difference to the joint. -/
theorem Joins.of_append_word {rest : List Char} (hrest : IsWord rest)
    (h : Joins front (text ++ rest)) : Joins front text := by
  generalize htext : text ++ rest = whole at h
  cases h with
  | @mk opening word hopening hword hdot =>
    obtain ⟨letters, rfl, rfl⟩ | ⟨letters, rfl, rfl⟩ := List.append_eq_append_iff.mp htext
    · -- the opening does not end within a word, so that it ends where the text does
      have hnil : letters = [] := by
        by_contra hne
        have hlast := hopening.isClear (letters.getLast hne)
          (by rw [List.getLast?_append_of_ne_nil _ hne, List.getLast?_eq_some_getLast hne]; rfl)
        rw [hrest _ (List.mem_append_left _ (List.getLast_mem hne))] at hlast
        cases hlast
      subst hnil
      rw [List.append_nil] at hopening hdot
      rw [← List.append_nil text]
      exact .mk hopening (List.forall_mem_nil _) hdot
    · exact .mk hopening (fun c hc => hword c (List.mem_append_left _ hc)) hdot

end Playground.Chain
