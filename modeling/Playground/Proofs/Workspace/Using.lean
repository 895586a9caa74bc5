import Mathlib.Data.List.Infix
import Playground.Workspace.Using

/-!
# Valid using directives

Which using directives are accepted, and what becomes of them.

- `isDottedName_eq_true_iff`: a text is taken for a dotted name iff it is one.
- `statement_cases`: a directive becomes an import statement iff it is valid, and is refused
  otherwise.
-/

namespace Playground.Using

/-! ## Dotted names -/

/-- A name: a letter or an underscore, and then letters, digits and underscores. -/
def IsName (text : List Char) : Prop :=
  ∃ c rest, text = c :: rest ∧ isNameStart c = true ∧ ∀ d ∈ rest, isNameContinue d = true

/-- One name, or several of them with dots in between. -/
inductive IsDottedName : List Char → Prop
  | name {n : List Char} : IsName n → IsDottedName n
  | dot {n rest : List Char} : IsName n → IsDottedName rest → IsDottedName (n ++ '.' :: rest)

/-- The end of a dotted name, from within one of its names on. -/
def EndsDottedName (text : List Char) : Prop :=
  ∃ more, (∀ c ∈ more, isNameContinue c = true) ∧
    (text = more ∨ ∃ rest, text = more ++ '.' :: rest ∧ IsDottedName rest)

/-- A dotted name is a character that a name can start with and the end of a dotted name. -/
theorem isDottedName_cons_iff {c : Char} {rest : List Char} :
    IsDottedName (c :: rest) ↔ isNameStart c = true ∧ EndsDottedName rest := by
  constructor
  · generalize htext : c :: rest = text
    rintro (⟨c', more, rfl, hstart, hmore⟩ | ⟨⟨c', more, rfl, hstart, hmore⟩, hrest⟩)
    · cases htext
      exact ⟨hstart, _, hmore, .inl rfl⟩
    · cases htext
      exact ⟨hstart, _, hmore, .inr ⟨_, rfl, hrest⟩⟩
  · rintro ⟨hstart, more, hmore, rfl | ⟨rest', rfl, hrest⟩⟩
    · exact .name ⟨c, rest, rfl, hstart, hmore⟩
    · exact .dot (n := c :: more) ⟨c, more, rfl, hstart, hmore⟩ hrest

/-- After a dot, a dotted name ends with a dotted name. -/
theorem endsDottedName_dot_iff {rest : List Char} :
    EndsDottedName ('.' :: rest) ↔ IsDottedName rest := by
  constructor
  · rintro ⟨more, hmore, htext⟩
    cases more with
    | nil =>
      rcases htext with htext | ⟨rest', htext, hrest⟩
      · cases htext
      · cases htext
        exact hrest
    | cons c more =>
      have hdot : c = '.' := by
        rcases htext with htext | ⟨rest', htext, -⟩ <;> cases htext <;> rfl
      subst hdot
      exact absurd (hmore '.' List.mem_cons_self) (by decide)
  · intro hrest
    exact ⟨[], List.forall_mem_nil _, .inr ⟨rest, rfl, hrest⟩⟩

/-- After any other character, that character goes on with a name. -/
theorem endsDottedName_cons_iff {c : Char} (hc : c ≠ '.') {rest : List Char} :
    EndsDottedName (c :: rest) ↔ isNameContinue c = true ∧ EndsDottedName rest := by
  constructor
  · rintro ⟨more, hmore, htext⟩
    cases more with
    | nil =>
      rcases htext with htext | ⟨rest', htext, -⟩
      · cases htext
      · exact absurd (List.cons.inj htext).1 hc
    | cons d more =>
      obtain ⟨hd, htail⟩ := List.forall_mem_cons.mp hmore
      rcases htext with htext | ⟨rest', htext, hrest⟩ <;> cases htext
      · exact ⟨hd, _, htail, .inl rfl⟩
      · exact ⟨hd, more, htail, .inr ⟨rest', rfl, hrest⟩⟩
  · rintro ⟨hd, more, hmore, htext⟩
    refine ⟨c :: more, List.forall_mem_cons.mpr ⟨hd, hmore⟩, ?_⟩
    rcases htext with rfl | ⟨rest', rfl, hrest⟩
    · exact .inl rfl
    · exact .inr ⟨rest', rfl, hrest⟩

/-- Reading goes on as far as a dotted name does. -/
theorem continuesName_eq_true_iff :
    ∀ text : List Char, (continuesName true text = true ↔ IsDottedName text) ∧
      (continuesName false text = true ↔ EndsDottedName text)
  | [] => by
    refine ⟨iff_of_false (by decide) ?_, iff_of_true rfl ⟨[], List.forall_mem_nil _, .inl rfl⟩⟩
    generalize htext : [] = text
    rintro (⟨c, more, rfl, -⟩ | ⟨⟨c, more, rfl, -⟩, -⟩) <;> cases htext
  | c :: rest => by
    obtain ⟨hfresh, hends⟩ := continuesName_eq_true_iff rest
    constructor
    · rw [continuesName, Bool.and_eq_true, hends, isDottedName_cons_iff]
    · rw [continuesName]
      by_cases hc : c = '.'
      · subst hc
        rw [if_pos rfl, hfresh, endsDottedName_dot_iff]
      · rw [if_neg hc, Bool.and_eq_true, hends, endsDottedName_cons_iff hc]

theorem isDottedName_eq_true_iff (text : List Char) :
    isDottedName text = true ↔ IsDottedName text :=
  (continuesName_eq_true_iff text).1

/-! ## Directives -/

/-- A text that begins like an import statement. -/
def IsStatement (text : List Char) : Prop :=
  "import ".toList <+: text ∨ "from ".toList <+: text

/-- A directive that is accepted: without the white space around it, it is one line, and an import
statement or a dotted name. -/
structure Valid (directive : String) : Prop where
  nonempty : Text.trim directive.toList ≠ []
  line : '\r' ∉ Text.trim directive.toList ∧ '\n' ∉ Text.trim directive.toList
  form : IsStatement (Text.trim directive.toList) ∨ IsDottedName (Text.trim directive.toList)

/-- A directive is valid and becomes an import statement, or is neither. -/
theorem statement_cases (directive : String) :
    (Valid directive ∧ ∃ line, statement directive = .ok line ∧ IsStatement line.toList) ∨
      (¬ Valid directive ∧ statement directive = .error (.badUsing directive)) := by
  unfold statement
  dsimp only
  generalize htext : Text.trim directive.toList = text
  split
  · next hbad =>
    refine .inr ⟨fun hvalid => ?_, rfl⟩
    obtain ⟨hne, hline, -⟩ := hvalid
    rw [htext] at hne hline
    simp [hne, hline] at hbad
  · next hgood =>
    have hlines : (text ≠ [] ∧ '\n' ∉ text) ∧ '\r' ∉ text := by simpa using hgood
    have hvalid (hform : IsStatement text ∨ IsDottedName text) : Valid directive := by
      subst htext
      exact ⟨hlines.1.1, ⟨hlines.2, hlines.1.2⟩, hform⟩
    split
    · next hstatement =>
      have hstatement : IsStatement text := by simpa [IsStatement] using hstatement
      exact .inl ⟨hvalid (.inl hstatement), _, rfl, by simpa using hstatement⟩
    · next hstatement =>
      have hstatement : ¬ IsStatement text := by simpa [IsStatement] using hstatement
      split
      · next hname =>
        refine .inl ⟨hvalid (.inr ((isDottedName_eq_true_iff text).mp hname)), _, rfl, .inl ?_⟩
        exact ⟨text, by simp⟩
      · next hname =>
        refine .inr ⟨fun hvalid => ?_, rfl⟩
        have hform := hvalid.form
        rw [htext] at hform
        exact hform.elim hstatement fun h => hname ((isDottedName_eq_true_iff text).mpr h)

end Playground.Using
