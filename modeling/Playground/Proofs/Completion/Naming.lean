import Playground.Completion.Suggest
import Playground.Proofs.Completion.Search
import Playground.Proofs.Completion.Statements

/-!
# Names that are found

What a text defines or assigns to has a name that can be written. An import is taken at its word: what
stands in its list is found as it stands there, and is suggested as it was found, whether or not it
can be written as a name.

- `Imports`: what an import binds, by the pieces of its list.
- `mem_map_fst_ofText_iff`: the names of a text are those that its statements import or define.
- `Imports.isBare`: what is known of an imported name. A defined one can be written, by
  `Defines.isNamed`.
- `complete_eq_append`: the suggestions that are taken from the text, before the others.
- `ofText_findsNames`: all names that are found, and all that are suggested, can be written iff those in
  the imports can. The star of an import of everything cannot.
-/

namespace Playground

namespace Binding

open Text (Stops)

/-! ## Names of statements and lines -/

/-- A name that an import binds, with what it is bound to. -/
inductive Imports : List Char → String × Binding → Prop
  | ofModules {statement list piece : List Char} {name : String} {asName : Option String} :
    ImportsModules statement list → piece ∈ Text.pieces ',' list → Item piece name asName →
    Imports statement (ofModule (name, asName))
  | ofAttributes {statement source list piece : List Char} {name : String} {asName : Option String} :
    ImportsFrom statement source list → piece ∈ Text.pieces ',' list → Item piece name asName →
    Imports statement (asName.getD name, .attribute (String.ofList source) name)

/-- A statement at the beginning of a line, behind white space, with the rest of the line. -/
def Begins (text statement : List Char) : Prop :=
  ∃ indent, IsSpacing indent ∧ indent ++ statement ∈ Text.pieces '\n' text

/-- A text without white space and without the characters that end a name in a list. -/
def IsBare (text : List Char) : Prop :=
  ∀ c ∈ text, Text.isBlank c = false ∧ c ≠ ',' ∧ inModuleList c = true

variable {statement line list piece : List Char} {name key : String} {asName : Option String}
  {b : String × Binding}

theorem mem_ofImport_or_iff : b ∈ ofImport statement ∨ b ∈ ofImportFrom statement ↔
    Imports statement b := by
  constructor
  · rintro (hb | hb)
    · obtain ⟨list, himports⟩ := exists_importsModules (List.ne_nil_of_mem hb)
      rw [himports.ofImport_eq] at hb
      obtain ⟨⟨name, asName⟩, hitem, rfl⟩ := List.mem_map.mp hb
      obtain ⟨piece, hpiece, hitem⟩ := mem_splitNames_iff.mp hitem
      exact .ofModules himports hpiece hitem
    · obtain ⟨source, list, himports⟩ := exists_importsFrom (List.ne_nil_of_mem hb)
      rw [himports.ofImportFrom_eq] at hb
      obtain ⟨⟨name, asName⟩, hitem, rfl⟩ := List.mem_map.mp hb
      obtain ⟨piece, hpiece, hitem⟩ := mem_splitNames_iff.mp hitem
      exact .ofAttributes himports hpiece hitem
  · rintro (⟨himports, hpiece, hitem⟩ | ⟨himports, hpiece, hitem⟩)
    · rw [himports.ofImport_eq]
      exact .inl (List.mem_map_of_mem (mem_splitNames_iff.mpr ⟨_, hpiece, hitem⟩))
    · rw [himports.ofImportFrom_eq]
      exact .inr (List.mem_map.mpr ⟨_, mem_splitNames_iff.mpr ⟨_, hpiece, hitem⟩, rfl⟩)

theorem Imports.lead_ne_nil (h : Imports statement b) : lead statement ≠ [] := by
  rcases h with ⟨himports, -, -⟩ | ⟨himports, -, -⟩
  · rw [himports.lead_eq]
    decide
  · rw [himports.lead_eq]
    decide

/-- The names that a line binds are those of the statement in it. -/
theorem mem_ofLine_iff : b ∈ ofLine line ↔ ∃ indent statement, IsSpacing indent ∧
    line = indent ++ statement ∧ (Imports statement b ∨ Defines statement b.1 ∧ b.2 = .own) := by
  have hstatement (statement : List Char) :
      b ∈ ofImport statement ++ ofImportFrom statement ++ ofDefinition statement ↔
        Imports statement b ∨ Defines statement b.1 ∧ b.2 = .own := by
    rw [List.mem_append, List.mem_append, mem_ofImport_or_iff, mem_ofDefinition_iff]
  constructor
  · intro hb
    obtain ⟨indent, statement, hindent, hstops, rfl⟩ := Text.exists_stops isGap line
    rw [ofLine, hstops.dropWhile_append hindent, hstatement] at hb
    exact ⟨indent, statement, hindent, rfl, hb⟩
  · rintro ⟨indent, statement, hindent, rfl, hb⟩
    -- the statement begins with a word, so that the indentation is the white space in front of it
    have hlead : lead statement ≠ [] := by
      rcases hb with himports | ⟨hdefines, -⟩
      · exact himports.lead_ne_nil
      · exact hdefines.lead_ne_nil
    rw [ofLine, (stops_of_lead hlead).dropWhile_append hindent, hstatement]
    exact hb

/-- The names that are found in a text are those that the statements in its lines define, assign to
or import. -/
theorem mem_map_fst_ofText_iff {text : List Char} : key ∈ (ofText text).map Prod.fst ↔
    ∃ statement, Begins text statement ∧
      (Defines statement key ∨ ∃ value, Imports statement (key, value)) := by
  rw [map_fst_ofText, List.mem_eraseDups]
  simp only [List.mem_map, List.mem_flatMap, mem_ofLine_iff]
  constructor
  · rintro ⟨⟨_, value⟩, ⟨line, hline, indent, statement, hindent, rfl, hb⟩, rfl⟩
    refine ⟨statement, ⟨indent, hindent, hline⟩, ?_⟩
    rcases hb with himports | ⟨hdefines, -⟩
    · exact .inr ⟨value, himports⟩
    · exact .inl hdefines
  · rintro ⟨statement, ⟨indent, hindent, hline⟩, hdefines | ⟨value, himports⟩⟩
    · exact ⟨(key, .own), ⟨_, hline, indent, statement, hindent, rfl, .inr ⟨hdefines, rfl⟩⟩, rfl⟩
    · exact ⟨(key, value), ⟨_, hline, indent, statement, hindent, rfl, .inl himports⟩, rfl⟩

/-- The names that are found can be written iff those can that are imported. -/
theorem forall_isNamed_iff (text : List Char) (p : String → Prop) :
    (∀ key ∈ (ofText text).map Prod.fst, p key → Chain.IsNamed key.toList) ↔
      ∀ statement b, Begins text statement → Imports statement b → p b.1 →
        Chain.IsNamed b.1.toList := by
  constructor
  · intro h statement b hbegins himports
    exact h b.1 (mem_map_fst_ofText_iff.mpr ⟨statement, hbegins, .inr ⟨b.2, himports⟩⟩)
  · intro h key hkey hp
    obtain ⟨statement, hbegins, hdefines | ⟨value, himports⟩⟩ := mem_map_fst_ofText_iff.mp hkey
    · exact hdefines.isNamed
    · exact h statement (key, value) hbegins himports hp

/-! ## What the names are -/

theorem IsBare.takeWhile (p : Char → Bool) {text : List Char} (h : IsBare text) :
    IsBare (text.takeWhile p) :=
  fun c hc => h c ((List.takeWhile_prefix p).mem hc)

theorem Renames.subset {rest asName : List Char} (h : Renames rest asName) : asName ⊆ rest := by
  obtain ⟨-, -, -, -, -, -⟩ := h
  intro c hc
  simp [hc]

theorem Renames.isRun {rest asName : List Char} (h : Renames rest asName) : Text.IsRun asName := by
  obtain ⟨-, -, -, -, hasName, -⟩ := h
  exact hasName

/-- A run in a piece of a list is bare. -/
theorem isBare_of_subset {word : List Char} (hword : Text.IsRun word) (hsubset : word ⊆ piece)
    (hpiece : piece ∈ Text.pieces ',' list) (hlist : ∀ c ∈ list, inModuleList c = true) :
    IsBare word := fun c hc =>
  ⟨hword.solid c hc, ne_of_mem_of_not_mem (hsubset hc) (Text.not_mem_of_mem_pieces hpiece),
    hlist c (Text.subset_of_mem_pieces hpiece (hsubset hc))⟩

theorem Item.isBare (h : Item piece name asName) (hpiece : piece ∈ Text.pieces ',' list)
    (hlist : ∀ c ∈ list, inModuleList c = true) :
    IsBare name.toList ∧ ∀ other ∈ asName, IsBare other.toList := by
  rcases h with ⟨-, hname, -, -⟩ | ⟨-, hname, hrenames⟩
  · rw [String.toList_ofList]
    exact ⟨isBare_of_subset hname (fun c hc => by simp [hc]) hpiece hlist, nofun⟩
  · rw [String.toList_ofList]
    refine ⟨isBare_of_subset hname (fun c hc => by simp [hc]) hpiece hlist, ?_⟩
    rintro _ ⟨⟩
    rw [String.toList_ofList]
    exact isBare_of_subset hrenames.isRun
      (fun c hc => List.mem_append_right _ (hrenames.subset hc)) hpiece hlist

theorem Opens.subset {body list : List Char} (h : Opens body list) : list ⊆ body := by
  cases h with
  | bare => exact List.Subset.refl _
  | opened => exact List.subset_cons_self _ _
  | alone => exact List.Subset.refl _

/-- What an import binds is bare. -/
theorem Imports.isBare (h : Imports statement b) : IsBare b.1.toList := by
  cases h with
  | @ofModules list piece name asName himports hpiece hitem =>
    obtain ⟨-, -, hlist, -⟩ := himports
    obtain ⟨hname, hasName⟩ := hitem.isBare hpiece hlist
    cases asName with
    | none =>
      rw [ofModule, topModule, String.toList_ofList]
      exact hname.takeWhile _
    | some other => exact hasName other rfl
  | @ofAttributes source list piece name asName himports hpiece hitem =>
    obtain ⟨-, -, -, -, -, -, hall, -, hopens⟩ := himports
    have hlist : ∀ c ∈ list, inModuleList c = true := fun c hc =>
      (Bool.and_eq_true_iff.mp (hall c (hopens.subset hc))).1
    obtain ⟨hname, hasName⟩ := hitem.isBare hpiece hlist
    cases asName with
    | none => exact hname
    | some other => exact hasName other rfl

theorem isBare_of_isWord {word : List Char} (h : Chain.IsWord word) : IsBare word := by
  intro c hc
  have hletter := h c hc
  refine ⟨h.isBlank c hc, ?_, ?_⟩
  · rintro rfl
    exact absurd hletter (by decide)
  · rw [inModuleList, Bool.and_eq_true, Bool.and_eq_true]
    refine ⟨⟨?_, ?_⟩, ?_⟩ <;>
    · rw [bne_iff_ne]
      rintro rfl
      exact absurd hletter (by decide)

end Binding

/-! ## Suggestions -/

namespace Reference

open Binding (ofText)

variable (r : Reference) {text typed : String} {position : Int}

/-- What is suggested of the names that a text binds. -/
def suggestions (text typed : String) : List Candidate :=
  ((ofText text.toList).filter fun b => Completion.isVisible typed b.1).map ofBinding

theorem label_ofBinding (b : String × Binding) : (ofBinding b).label = b.1 := by
  obtain ⟨name, _ | _ | _⟩ := b <;> rfl

/-- The names that a text binds are suggested before all others. -/
theorem complete_eq_append
    (h : Chain.before? (Text.before position text.toList) = some ⟨[], typed⟩) :
    ∃ others, r.complete text position = suggestions text typed ++ others ∧
      ∀ c ∈ others, c ∈ r.names [] := by
  have hnames : r.names (ofText text.toList) =
      (ofText text.toList).map ofBinding ++ r.names [] := by
    simp only [names, List.map_nil, List.nil_append, List.append_assoc]
  have hown : ((ofText text.toList).map ofBinding).filter
      (fun c => Completion.isVisible typed c.label) = suggestions text typed := by
    rw [List.filter_map]
    congr 2
    funext b
    exact congrArg (Completion.isVisible typed) (label_ofBinding b)
  -- no two of them have one label, so that none is left out
  have hnodup : ((suggestions text typed).map Candidate.label).Nodup := by
    have hlabels : (suggestions text typed).map Candidate.label =
        ((ofText text.toList).filter fun b => Completion.isVisible typed b.1).map Prod.fst := by
      rw [suggestions, List.map_map]
      exact List.map_congr_left fun b _ => label_ofBinding b
    rw [hlabels]
    exact (Completion.nodup_map_firstsAfter Prod.fst [] _).sublist
      (List.filter_sublist.map Prod.fst)
  have hcomplete : r.complete text position = suggestions text typed ++
      Completion.firstsAfter Candidate.label
        (((suggestions text typed).map Candidate.label).reverse ++ [])
        ((r.names []).filter fun c => Completion.isVisible typed c.label) := by
    rw [← Completion.firstsAfter_append hnodup fun _ _ => List.not_mem_nil, ← hown,
      ← List.filter_append, ← hnames, complete, h]
    rfl
  exact ⟨_, hcomplete, fun c hc =>
    List.mem_of_mem_filter ((Completion.firstsAfter_sublist _ _ _).subset hc)⟩

theorem mem_map_label_suggestions {label : String} :
    (∃ c ∈ suggestions text typed, c.label = label) ↔
      label ∈ (ofText text.toList).map Prod.fst ∧ Completion.isVisible typed label = true := by
  simp only [suggestions, List.mem_map, List.mem_filter]
  constructor
  · rintro ⟨_, ⟨b, ⟨hb, hvisible⟩, rfl⟩, rfl⟩
    rw [label_ofBinding]
    exact ⟨⟨b, hb, rfl⟩, hvisible⟩
  · rintro ⟨⟨b, hb, rfl⟩, hvisible⟩
    exact ⟨_, ⟨b, ⟨hb, hvisible⟩, rfl⟩, label_ofBinding b⟩

end Reference

/-! ## Names that can be written -/

namespace Binding

/-- What the names are that are found in a text, and what is suggested of them. -/
structure FindsNames (text : String) : Prop where
  /-- They are those that its statements define, assign to or import. -/
  found : ∀ key, key ∈ (ofText text.toList).map Prod.fst ↔
    ∃ statement, Begins text.toList statement ∧
      (Defines statement key ∨ ∃ value, Imports statement (key, value))
  /-- None of them holds white space or what ends a name in a list. -/
  bare : ∀ key ∈ (ofText text.toList).map Prod.fst, IsBare key.toList
  /-- The text's own can be written. -/
  own : ∀ key, (key, .own) ∈ ofText text.toList →
    Chain.IsNamed key.toList ∧ Source.isKeyword key = false
  /-- So all of them can if those can that are imported. -/
  named_iff : (∀ key ∈ (ofText text.toList).map Prod.fst, Chain.IsNamed key.toList) ↔
    ∀ statement b, Begins text.toList statement → Imports statement b → Chain.IsNamed b.1.toList
  /-- Where no dot stands before the cursor they are suggested, as they are. -/
  suggested : ∀ (r : Reference) (position : Int) (typed : String),
    Chain.before? (Text.before position text.toList) = some ⟨[], typed⟩ →
      ∃ others, r.complete text position = Reference.suggestions text typed ++ others ∧
        ∀ c ∈ others, c ∈ r.names []
  /-- The label of a suggestion is what is inserted. -/
  inserted : ∀ typed, ∀ c ∈ Reference.suggestions text typed, c.insertText = some c.label
  /-- So the labels can be written if those can that are imported. -/
  labels_named_iff : ∀ typed,
    (∀ c ∈ Reference.suggestions text typed, Chain.IsNamed c.label.toList) ↔
      ∀ statement b, Begins text.toList statement → Imports statement b →
        Completion.isVisible typed b.1 = true → Chain.IsNamed b.1.toList

theorem Imports.ne_own {statement : List Char} {b : String × Binding} (h : Imports statement b) :
    b.2 ≠ .own := by
  cases h with
  | @ofModules _ _ name asName _ _ _ => cases asName <;> nofun
  | ofAttributes _ _ _ => nofun

/-- Which names are found in a text, and which of them can be written. -/
theorem ofText_findsNames (text : String) : FindsNames text where
  found _ := mem_map_fst_ofText_iff
  bare key hkey := by
    obtain ⟨statement, -, hdefines | ⟨value, himports⟩⟩ := mem_map_fst_ofText_iff.mp hkey
    · exact isBare_of_isWord hdefines.isNamed.letters
    · exact himports.isBare
  own key hkey := by
    rw [ofText_eq] at hkey
    obtain ⟨line, -, hline⟩ :=
      List.mem_flatMap.mp ((Completion.firstsAfter_sublist _ _ _).subset hkey)
    obtain ⟨indent, statement, -, -, himports | ⟨hdefines, -⟩⟩ := mem_ofLine_iff.mp hline
    · exact absurd rfl himports.ne_own
    · exact ⟨hdefines.isNamed, hdefines.isKeyword_eq⟩
  named_iff := by simpa using forall_isNamed_iff text.toList fun _ => True
  suggested r _ _ h := r.complete_eq_append h
  inserted typed c hc := by
    obtain ⟨⟨name, value⟩, -, rfl⟩ := List.mem_map.mp hc
    cases value <;> rfl
  labels_named_iff typed := by
    rw [← forall_isNamed_iff text.toList fun key => Completion.isVisible typed key = true]
    constructor
    · intro h key hkey hvisible
      obtain ⟨c, hc, rfl⟩ := Reference.mem_map_label_suggestions.mpr ⟨hkey, hvisible⟩
      exact h c hc
    · intro h c hc
      obtain ⟨hkey, hvisible⟩ := Reference.mem_map_label_suggestions.mp ⟨c, hc, rfl⟩
      exact h c.label hkey hvisible

/-- The star of an import of everything is found, and is no name. -/
theorem ofText_star :
    (ofText "from math import *".toList).map Prod.fst = ["*"] ∧ ¬ Chain.IsNamed "*".toList := by
  rw [map_fst_ofText]
  refine ⟨by decide, fun h => ?_⟩
  exact absurd (h.letters '*' (by decide)) (by decide)

end Binding

end Playground
