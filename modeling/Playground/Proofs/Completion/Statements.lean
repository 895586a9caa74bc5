import Mathlib.Data.Option.Basic
import Playground.Proofs.Completion.Items

/-!
# Statements that bind names

What the searches take for an import, a definition or an assignment, said as the texts that are one.
A statement is what stands behind the white space that a line begins with. It may go on after what is
read of it, with anything that does not continue it.

- `afterWord?_eq_some_iff` and `lead_of_afterWord?`: a statement that begins with a word, and white
  space behind it, begins with no other.
- `ImportsModules` and `ImportsFrom`: imports, with the lists in them.
- `Heads`, `Assigns` and `Defines`: definitions and assignments, with their names.
- `ofDefinition_eq_iff`: those are found, and nothing else. The same for imports is said by
  `ImportsModules.ofImport_eq` and `exists_importsModules`, and by `ImportsFrom.ofImportFrom_eq` and
  `exists_importsFrom`.
-/

namespace Playground.Binding

open Text (Stops)

/-- Nothing but spaces and tabs. -/
def IsSpacing (text : List Char) : Prop :=
  ∀ c ∈ text, isGap c = true

/-- The white space between two words of a statement. -/
structure Separates (gap : List Char) : Prop where
  spacing : IsSpacing gap
  ne_nil : gap ≠ []

instance (text : List Char) : Decidable (IsSpacing text) :=
  decidable_of_iff (text.all isGap = true) List.all_eq_true

variable {text statement front gap rest body list source : List Char} {word name : String} {b : String × Binding}

/-! ## Words -/

/-- The word that a statement begins with. -/
def lead (statement : List Char) : List Char :=
  statement.takeWhile Text.isWord

theorem eq_of_isGap {c : Char} (h : isGap c = true) : c = ' ' ∨ c = '\t' := by
  rwa [isGap, Bool.or_eq_true, beq_iff_eq, beq_iff_eq] at h

theorem isWord_of_isGap {c : Char} (h : isGap c = true) : Text.isWord c = false := by
  rcases eq_of_isGap h with rfl | rfl <;> decide

/-- A word ends where white space begins. -/
theorem Separates.stops (hgap : Separates gap) (rest : List Char) :
    Stops Text.isWord (gap ++ rest) :=
  Text.stops_append (fun c hc => isWord_of_isGap (hgap.spacing c (List.mem_of_mem_head? hc)))
    hgap.ne_nil rest

theorem Separates.any_head? (hgap : Separates gap) (rest : List Char) :
    (gap ++ rest).head?.any isGap = true := by
  obtain ⟨c, hc⟩ := Option.isSome_iff_exists.mp (List.isSome_head?.mpr hgap.ne_nil)
  rw [List.head?_append_of_ne_nil _ hgap.ne_nil, hc]
  exact hgap.spacing c (List.mem_of_mem_head? hc)

theorem exists_separates (h : text.head?.any isGap = true) :
    ∃ gap rest, Separates gap ∧ Stops isGap rest ∧ text = gap ++ rest := by
  obtain ⟨gap, rest, hgap, hrest, rfl⟩ := Text.exists_stops isGap text
  refine ⟨gap, rest, ⟨hgap, ?_⟩, hrest, rfl⟩
  rintro rfl
  obtain ⟨c, hc, hblank⟩ := (Option.any_eq_true _ _).mp h
  rw [hrest c hc] at hblank
  cases hblank

theorem lead_append {word : List Char} (hword : Chain.IsWord word) (hrest : Stops Text.isWord rest) :
    lead (word ++ rest) = word :=
  hrest.takeWhile_append hword

/-- What stands behind a word and white space. -/
theorem afterWord?_eq_some_iff : afterWord? word statement = some rest ↔
    ∃ gap, Separates gap ∧ Stops isGap rest ∧ statement = word.toList ++ gap ++ rest := by
  have hdrop (back : List Char) : (word.toList ++ back).drop word.length = back :=
    List.drop_left' String.length_toList
  constructor
  · intro h
    rw [afterWord?] at h
    split at h
    · next hprefix =>
      obtain ⟨back, rfl⟩ := List.isPrefixOf_iff_prefix.mp hprefix
      rw [hdrop] at h
      dsimp only at h
      split at h
      · next hhead =>
        obtain rfl := Option.some.inj h
        obtain ⟨gap, rest, hgap, hrest, rfl⟩ := exists_separates hhead
        rw [hrest.dropWhile_append hgap.spacing]
        exact ⟨gap, hgap, hrest, (List.append_assoc _ _ _).symm⟩
      · cases h
    · cases h
  · rintro ⟨gap, hgap, hrest, rfl⟩
    rw [afterWord?, List.append_assoc,
      if_pos (List.isPrefixOf_iff_prefix.mpr (List.prefix_append _ _)), hdrop]
    dsimp only
    rw [if_pos (hgap.any_head? rest), hrest.dropWhile_append hgap.spacing]

/-- A word does not begin with white space. -/
theorem stops_of_lead (h : lead statement ≠ []) : Stops isGap statement := by
  cases statement with
  | nil => nofun
  | cons c rest =>
    rintro d ⟨⟩
    refine Bool.eq_false_iff.mpr fun hgap => h (List.takeWhile_cons_of_neg ?_)
    exact Bool.eq_false_iff.mp (isWord_of_isGap hgap)

/-- A statement begins with one word only. -/
theorem lead_of_afterWord? (hword : Chain.IsWord word.toList)
    (h : afterWord? word statement = some rest) : lead statement = word.toList := by
  obtain ⟨gap, hgap, -, rfl⟩ := afterWord?_eq_some_iff.mp h
  rw [List.append_assoc]
  exact lead_append hword (hgap.stops rest)

theorem afterWord?_eq_none (hword : Chain.IsWord word.toList) (h : lead statement ≠ word.toList) :
    afterWord? word statement = none :=
  Option.eq_none_iff_forall_ne_some.mpr fun _ hrest => h (lead_of_afterWord? hword hrest)

theorem name?_eq_some_iff : name? statement = some (name, rest) ↔
    Chain.IsNamed name.toList ∧ Stops Text.isWord rest ∧ statement = name.toList ++ rest := by
  constructor
  · intro h
    cases statement with
    | nil => cases h
    | cons c back =>
      rw [name?] at h
      split at h
      · next hc =>
        obtain ⟨hword, hdecimal⟩ := Bool.and_eq_true_iff.mp hc
        cases h
        rw [String.toList_ofList]
        refine ⟨⟨fun d hd => List.mem_takeWhile_imp hd, ?_⟩, Text.stops_dropWhile _ _,
          List.takeWhile_append_dropWhile.symm⟩
        rw [List.takeWhile_cons_of_pos hword]
        exact hdecimal
      · cases h
  · rintro ⟨hname, hrest, rfl⟩
    have htake := hrest.takeWhile_append hname.letters
    have hdrop := hrest.dropWhile_append hname.letters
    cases hletters : name.toList with
    | nil => exact absurd hletters hname.ne_nil
    | cons c back =>
      rw [hletters] at htake hdrop hname
      have hc : (Text.isWord c && !Text.isDecimal c) = true :=
        Bool.and_eq_true_iff.mpr ⟨hname.letters c List.mem_cons_self, hname.named⟩
      rw [List.cons_append, name?, if_pos hc, ← List.cons_append, htake, hdrop, ← hletters,
        String.ofList_toList]

/-! ## Imports -/

/-- A statement that imports modules, with the list of them. The list ends with the line, or where a
comment or another statement begins. -/
inductive ImportsModules : List Char → List Char → Prop
  | mk {gap list rest : List Char} : Separates gap → Stops isGap list →
    (∀ c ∈ list, inModuleList c = true) → Stops inModuleList rest →
    ImportsModules ("import".toList ++ gap ++ list ++ rest) list

/-- The list that is opened by a parenthesis, unless there is nothing else. -/
inductive Opens : List Char → List Char → Prop
  | bare {list : List Char} : list.head? ≠ some '(' → Opens list list
  | opened {list : List Char} : list ≠ [] → Opens ('(' :: list) list
  | alone : Opens ['('] ['(']

/-- A statement that imports from a module, with the module and the list of attributes. The list may
also end at a parenthesis. -/
inductive ImportsFrom : List Char → List Char → List Char → Prop
  | mk {gap source gap' gap'' body rest list : List Char} : Separates gap → source ≠ [] →
    (∀ c ∈ source, inModuleName c = true) → Separates gap' → Separates gap'' → Stops isGap body →
    (∀ c ∈ body, inAttributeList c = true) → Stops inAttributeList rest → Opens body list →
    ImportsFrom ("from".toList ++ gap ++ source ++ gap' ++ "import".toList ++ gap'' ++ body ++ rest)
      source list

theorem isGap_inModuleList {c : Char} (h : isGap c = true) : inModuleList c = true := by
  rcases eq_of_isGap h with rfl | rfl <;> decide

theorem isGap_inAttributeList {c : Char} (h : isGap c = true) : inAttributeList c = true := by
  rcases eq_of_isGap h with rfl | rfl <;> decide

theorem isGap_inModuleName {c : Char} (h : isGap c = true) : inModuleName c = false := by
  rcases eq_of_isGap h with rfl | rfl <;> decide

/-- What is left of a text behind a list that goes on over white space does not begin with white
space if the list is empty. -/
theorem stops_append_of_stops {p : Char → Bool} (hp : ∀ c, isGap c = true → p c = true)
    (hlist : Stops isGap list) (hrest : Stops p rest) : Stops isGap (list ++ rest) := by
  cases list with
  | nil =>
    exact fun c hc => Bool.eq_false_iff.mpr fun hgap => Bool.eq_false_iff.mp (hrest c hc) (hp c hgap)
  | cons c list => exact Text.stops_append hlist (List.cons_ne_nil _ _) rest

/-! ### Words at the beginning -/

theorem ImportsModules.lead_eq (h : ImportsModules statement list) :
    lead statement = "import".toList := by
  obtain ⟨hgap, -, -, -⟩ := h
  simp only [List.append_assoc]
  exact lead_append (by decide) (hgap.stops _)

theorem ImportsFrom.lead_eq (h : ImportsFrom statement source list) :
    lead statement = "from".toList := by
  obtain ⟨hgap, -, -, -, -, -, -, -, -⟩ := h
  simp only [List.append_assoc]
  exact lead_append (by decide) (hgap.stops _)

theorem ofImport_eq_nil (h : lead statement ≠ "import".toList) : ofImport statement = [] := by
  rw [ofImport, afterWord?_eq_none (by decide) h]

theorem ofImportFrom_eq_nil (h : lead statement ≠ "from".toList) : ofImportFrom statement = [] := by
  rw [ofImportFrom, afterWord?_eq_none (by decide) h]

/-! ### Lists of names -/

/-- An import of modules binds the names in its list. -/
theorem ImportsModules.ofImport_eq (h : ImportsModules statement list) :
    ofImport statement = (splitNames list).map ofModule := by
  obtain @⟨gap, _, rest, hgap, hlist, hall, hrest⟩ := h
  have hafter : afterWord? "import" ("import".toList ++ gap ++ list ++ rest) = some (list ++ rest) :=
    afterWord?_eq_some_iff.mpr ⟨gap, hgap,
      stops_append_of_stops (fun _ => isGap_inModuleList) hlist hrest, List.append_assoc _ _ _⟩
  rw [ofImport, hafter]
  dsimp only
  rw [hrest.takeWhile_append hall]

/-- There is no other statement that is taken for one. -/
theorem exists_importsModules (h : ofImport statement ≠ []) :
    ∃ list, ImportsModules statement list := by
  cases hafter : afterWord? "import" statement with
  | none => exact absurd (by rw [ofImport, hafter]) h
  | some back =>
    obtain ⟨gap, hgap, hback, rfl⟩ := afterWord?_eq_some_iff.mp hafter
    obtain ⟨list, rest, hlist, hrest, rfl⟩ := Text.exists_stops inModuleList back
    refine ⟨list, ?_⟩
    rw [← List.append_assoc]
    exact .mk hgap hback.of_append hlist hrest

theorem Opens.attributeList_eq (h : Opens body list) (hall : ∀ c ∈ body, inAttributeList c = true)
    (hrest : Stops inAttributeList rest) : attributeList (body ++ rest) = list := by
  rw [attributeList, hrest.takeWhile_append hall]
  cases h with
  | bare hhead =>
    cases body with
    | nil => rfl
    | cons c back =>
      have hc : c ≠ '(' := fun h => hhead (congrArg some h)
      simp [hc]
  | opened hne => simp [hne]
  | alone => rfl

theorem exists_opens (body : List Char) : ∃ list, Opens body list := by
  cases body with
  | nil => exact ⟨[], .bare nofun⟩
  | cons c back =>
    by_cases hc : c = '('
    · subst hc
      cases back with
      | nil => exact ⟨['('], .alone⟩
      | cons d back => exact ⟨d :: back, .opened (List.cons_ne_nil _ _)⟩
    · exact ⟨c :: back, .bare fun h => hc (Option.some.inj h)⟩

/-- An import from a module binds the names in its list. -/
theorem ImportsFrom.ofImportFrom_eq (h : ImportsFrom statement source list) :
    ofImportFrom statement = (splitNames list).map fun (name, asName) =>
      (asName.getD name, .attribute (String.ofList source) name) := by
  obtain @⟨gap, _, gap', gap'', body, rest, _, hgap, hne, hsource, hgap', hgap'', hbody, hall, hrest,
    hopens⟩ := h
  -- what stands behind the module, which ends in white space
  have hstops (text : List Char) : Stops inModuleName (gap' ++ text) :=
    Text.stops_append (fun c hc => isGap_inModuleName (hgap'.spacing c (List.mem_of_mem_head? hc)))
      hgap'.ne_nil text
  have hfrom : afterWord? "from" ("from".toList ++ gap ++ source ++ gap' ++ "import".toList ++ gap'' ++
      body ++ rest) = some (source ++ (gap' ++ ("import".toList ++ gap'' ++ (body ++ rest)))) := by
    refine afterWord?_eq_some_iff.mpr ⟨gap, hgap, Text.stops_append (fun c hc => ?_) hne _, ?_⟩
    · exact Bool.eq_false_iff.mpr fun hblank =>
        Bool.eq_false_iff.mp (isGap_inModuleName hblank) (hsource c (List.mem_of_mem_head? hc))
    · simp only [List.append_assoc]
  have himport : afterWord? "import" ("import".toList ++ gap'' ++ (body ++ rest)) =
      some (body ++ rest) :=
    afterWord?_eq_some_iff.mpr ⟨gap'', hgap'',
      stops_append_of_stops (fun _ => isGap_inAttributeList) hbody hrest, rfl⟩
  have hskip : (gap' ++ ("import".toList ++ gap'' ++ (body ++ rest))).dropWhile isGap =
      "import".toList ++ gap'' ++ (body ++ rest) :=
    Text.Stops.dropWhile_append (fun c hc => by cases hc; decide) hgap'.spacing
  rw [ofImportFrom, hfrom]
  dsimp only
  rw [(hstops _).takeWhile_append hsource, (hstops _).dropWhile_append hsource, hgap'.any_head?, hskip,
    himport, List.isEmpty_eq_false_iff.mpr hne]
  dsimp only
  rw [hopens.attributeList_eq hall hrest]
  rfl

/-- There is no other statement that is taken for one. -/
theorem exists_importsFrom (h : ofImportFrom statement ≠ []) :
    ∃ source list, ImportsFrom statement source list := by
  rw [ofImportFrom] at h
  cases hfrom : afterWord? "from" statement with
  | none =>
    rw [hfrom] at h
    exact absurd rfl h
  | some back =>
    rw [hfrom] at h
    dsimp only at h
    obtain ⟨gap, hgap, -, rfl⟩ := afterWord?_eq_some_iff.mp hfrom
    obtain ⟨source, back, hsource, hback, rfl⟩ := Text.exists_stops inModuleName back
    rw [hback.takeWhile_append hsource, hback.dropWhile_append hsource] at h
    split at h
    · exact absurd rfl h
    · next hparts =>
      -- there is a module, and white space behind it
      rw [Bool.not_eq_true, Bool.or_eq_false_iff, Bool.not_eq_false'] at hparts
      obtain ⟨hne, hhead⟩ := hparts
      obtain ⟨gap', behind, hgap', hbehind, rfl⟩ := exists_separates hhead
      rw [hbehind.dropWhile_append hgap'.spacing] at h
      cases himport : afterWord? "import" behind with
      | none =>
        rw [himport] at h
        exact absurd rfl h
      | some behind =>
        obtain ⟨gap'', hgap'', hbody, rfl⟩ := afterWord?_eq_some_iff.mp himport
        obtain ⟨body, rest, hall, hrest, rfl⟩ := Text.exists_stops inAttributeList behind
        obtain ⟨list, hopens⟩ := exists_opens body
        refine ⟨source, list, ?_⟩
        simp only [← List.append_assoc]
        exact .mk hgap (List.isEmpty_eq_false_iff.mp hne) hsource hgap' hgap'' hbody.of_append hall hrest
          hopens

/-! ## Definitions -/

/-- The head of a definition, with the name. -/
inductive Heads : List Char → String → Prop
  | mk {word : String} {gap : List Char} {name : String} {rest : List Char} :
    word = "def" ∨ word = "class" → Separates gap → Chain.IsNamed name.toList →
    Stops Text.isWord rest → Heads (word.toList ++ gap ++ (name.toList ++ rest)) name

/-- What stands between the name in an assignment and the equals sign. -/
inductive Annotates : List Char → Prop
  | none : Annotates []
  | some {note : List Char} : (∀ c ∈ note, inAnnotation c = true) → Annotates (':' :: note)

/-- An assignment, with the name. The equals sign is not doubled. -/
inductive Assigns : List Char → String → Prop
  | mk {name : String} {gap note rest : List Char} : Chain.IsNamed name.toList → IsSpacing gap →
    Annotates note → Stops (· == '=') rest →
    Assigns (name.toList ++ (gap ++ note ++ '=' :: rest)) name

/-- A statement that defines a name or assigns to it. -/
inductive Defines : List Char → String → Prop
  | definition {statement : List Char} {name : String} : Heads statement name →
    Source.isKeyword name = false → Defines statement name
  | async {gap statement : List Char} {name : String} : Separates gap → Heads statement name →
    Source.isKeyword name = false → Defines ("async".toList ++ gap ++ statement) name
  | assignment {statement : List Char} {name : String} : Assigns statement name →
    Source.isKeyword name = false → Defines statement name

theorem Heads.lead_eq (h : Heads statement name) :
    lead statement = "def".toList ∨ lead statement = "class".toList := by
  obtain ⟨hword, hgap, -, -⟩ := h
  simp only [List.append_assoc]
  rcases hword with rfl | rfl
  · exact .inl (lead_append (by decide) (hgap.stops _))
  · exact .inr (lead_append (by decide) (hgap.stops _))

theorem Heads.isNamed (h : Heads statement name) : Chain.IsNamed name.toList := by
  obtain ⟨-, -, hnamed, -⟩ := h
  exact hnamed

theorem Assigns.isNamed (h : Assigns statement name) : Chain.IsNamed name.toList := by
  obtain ⟨hnamed, -, -, -⟩ := h
  exact hnamed

/-- Behind the name in an assignment the word is over. -/
theorem Annotates.stops {note : List Char} (h : Annotates note) (hgap : IsSpacing gap)
    (rest : List Char) : Stops Text.isWord (gap ++ note ++ '=' :: rest) := by
  have hequals : Text.isWord '=' = false := by decide
  have hcolon : Text.isWord ':' = false := by decide
  cases gap with
  | nil => cases h with
    | none => rintro c ⟨⟩; exact hequals
    | some => rintro c ⟨⟩; exact hcolon
  | cons c gap => rintro d ⟨⟩; exact isWord_of_isGap (hgap c List.mem_cons_self)

theorem Assigns.lead_eq (h : Assigns statement name) : lead statement = name.toList := by
  obtain ⟨hname, hgap, hnote, -⟩ := h
  exact lead_append hname.letters (hnote.stops hgap _)

theorem Defines.lead_ne_nil (h : Defines statement name) : lead statement ≠ [] := by
  rcases h with ⟨hheads, -⟩ | ⟨hgap, -, -⟩ | ⟨hassigns, -⟩
  · rcases hheads.lead_eq with h | h <;> rw [h] <;> decide
  · rw [List.append_assoc, lead_append (by decide) (hgap.stops _)]
    decide
  · rw [hassigns.lead_eq]
    exact hassigns.isNamed.ne_nil

/-- A definition does not begin with a word for an import. -/
theorem Defines.lead_ne (h : Defines statement name) :
    lead statement ≠ "import".toList ∧ lead statement ≠ "from".toList := by
  rcases h with ⟨hheads, -⟩ | ⟨hgap, -, -⟩ | ⟨hassigns, hfree⟩
  · rcases hheads.lead_eq with h | h <;> rw [h] <;> decide
  · rw [List.append_assoc, lead_append (by decide) (hgap.stops _)]
    decide
  · rw [hassigns.lead_eq, Ne, Ne, String.toList_inj, String.toList_inj]
    constructor
    · rintro rfl
      exact absurd hfree (by decide)
    · rintro rfl
      exact absurd hfree (by decide)

/-- What is defined or assigned to is a name. -/
theorem Defines.isNamed (h : Defines statement name) : Chain.IsNamed name.toList := by
  rcases h with ⟨hheads, -⟩ | ⟨-, hheads, -⟩ | ⟨hassigns, -⟩
  · exact hheads.isNamed
  · exact hheads.isNamed
  · exact hassigns.isNamed

theorem Defines.isKeyword_eq (h : Defines statement name) : Source.isKeyword name = false := by
  rcases h with ⟨-, hfree⟩ | ⟨-, -, hfree⟩ | ⟨-, hfree⟩
  · exact hfree
  · exact hfree
  · exact hfree

/-- What stands behind one of the words that begin a definition. No statement begins with both. -/
theorem afterHead?_eq_some_iff :
    (afterWord? "def" statement <|> afterWord? "class" statement) = some rest ↔
      ∃ word, (word = "def" ∨ word = "class") ∧ afterWord? word statement = some rest := by
  rw [Option.orElse_eq_some]
  constructor
  · rintro (hafter | ⟨-, hafter⟩)
    · exact ⟨"def", .inl rfl, hafter⟩
    · exact ⟨"class", .inr rfl, hafter⟩
  · rintro ⟨word, rfl | rfl, hafter⟩
    · exact .inl hafter
    · refine .inr ⟨afterWord?_eq_none (by decide) ?_, hafter⟩
      rw [lead_of_afterWord? (by decide) hafter]
      decide

theorem heading?_eq_some_iff : heading? statement = some name ↔ Heads statement name := by
  constructor
  · intro h
    rw [heading?] at h
    split at h
    · cases h
    · next back hback =>
      obtain ⟨word, hword, hafter⟩ := afterHead?_eq_some_iff.mp hback
      obtain ⟨⟨_, rest⟩, hname, rfl⟩ := Option.map_eq_some_iff.mp h
      obtain ⟨hnamed, hrest, rfl⟩ := name?_eq_some_iff.mp hname
      obtain ⟨gap, hgap, -, rfl⟩ := afterWord?_eq_some_iff.mp hafter
      exact .mk hword hgap hnamed hrest
  · rintro @⟨word, gap, _, rest, hword, hgap, hnamed, hrest⟩
    have hname : name? (name.toList ++ rest) = some (name, rest) :=
      name?_eq_some_iff.mpr ⟨hnamed, hrest, rfl⟩
    have hstops : Stops isGap (name.toList ++ rest) := by
      refine stops_of_lead ?_
      rw [lead_append hnamed.letters hrest]
      exact hnamed.ne_nil
    rw [heading?, afterHead?_eq_some_iff.mpr
      ⟨word, hword, afterWord?_eq_some_iff.mpr ⟨gap, hgap, hstops, rfl⟩⟩]
    dsimp only
    rw [hname]
    rfl

/-! ### Assignments -/

/-- What stands behind an annotation, or where one would begin. -/
def behindNote (target : List Char) : List Char :=
  if target.head?.any (· == ':') then target.dropWhile inAnnotation else target

theorem exists_annotates (target : List Char) :
    ∃ note, Annotates note ∧ target = note ++ behindNote target := by
  rw [behindNote]
  split
  · next hhead =>
    obtain ⟨c, hc, hcolon⟩ := (Option.any_eq_true _ _).mp hhead
    obtain rfl := beq_iff_eq.mp hcolon
    obtain ⟨behind, rfl⟩ := List.head?_eq_some_iff.mp hc
    refine ⟨':' :: behind.takeWhile inAnnotation, .some fun c hc => List.mem_takeWhile_imp hc, ?_⟩
    rw [List.dropWhile_cons_of_pos (by decide), List.cons_append, List.takeWhile_append_dropWhile]
  · exact ⟨[], .none, rfl⟩

theorem Annotates.behindNote_append {note : List Char} (h : Annotates note) (rest : List Char) :
    behindNote (note ++ '=' :: rest) = '=' :: rest := by
  cases h with
  | none => rfl
  | @some note hnote =>
    have hequals : Stops inAnnotation ('=' :: rest) := by rintro c ⟨⟩; decide
    have hcolon : (':' :: note ++ '=' :: rest).head?.any (· == ':') = true := rfl
    rw [behindNote, if_pos hcolon]
    exact hequals.dropWhile_append (List.forall_mem_cons.mpr ⟨by decide, hnote⟩)

/-- An equals sign that is not doubled. -/
theorem equals_iff : (text.head?.any (· == '=') && !text.tail.head?.any (· == '=')) = true ↔
    ∃ rest, Stops (· == '=') rest ∧ text = '=' :: rest := by
  cases text with
  | nil => simp
  | cons c rest =>
    have hstops : Stops (· == '=') rest ↔ rest.head?.any (· == '=') = false := by
      cases rest <;> simp [Stops]
    simp [hstops, and_comm]

/-- What stands behind a name makes an assignment of it, and nothing else does. -/
theorem isAssignment_eq_true_iff : isAssignment text = true ↔ ∃ gap note rest, IsSpacing gap ∧
    Annotates note ∧ Stops (· == '=') rest ∧ text = gap ++ note ++ '=' :: rest := by
  have hbehind : isAssignment text = true ↔
      ∃ rest, Stops (· == '=') rest ∧ behindNote (text.dropWhile isGap) = '=' :: rest :=
    equals_iff
  rw [hbehind]
  constructor
  · rintro ⟨rest, hrest, hequals⟩
    -- white space first, then the annotation, and the equals sign behind it
    obtain ⟨gap, target, hgap, htarget, rfl⟩ := Text.exists_stops isGap text
    obtain ⟨note, hnote, hsplit⟩ := exists_annotates target
    rw [htarget.dropWhile_append hgap] at hequals
    refine ⟨gap, note, rest, hgap, hnote, hrest, ?_⟩
    rw [List.append_assoc, ← hequals, ← hsplit]
  · rintro ⟨gap, note, rest, hgap, hnote, hrest, rfl⟩
    have hstops : Stops isGap (note ++ '=' :: rest) := by
      cases hnote with
      | none => rintro c ⟨⟩; decide
      | some => rintro c ⟨⟩; decide
    refine ⟨rest, hrest, ?_⟩
    rw [List.append_assoc, hstops.dropWhile_append hgap, hnote.behindNote_append]

theorem assigned?_eq_some_iff : assigned? statement = some name ↔ Assigns statement name := by
  rw [assigned?]
  constructor
  · intro h
    split at h
    · cases h
    · next name' back hname =>
      split at h
      · next hassigns =>
        obtain rfl := Option.some.inj h
        obtain ⟨hnamed, -, rfl⟩ := name?_eq_some_iff.mp hname
        obtain ⟨gap, note, rest, hgap, hnote, hrest, rfl⟩ := isAssignment_eq_true_iff.mp hassigns
        exact .mk hnamed hgap hnote hrest
      · cases h
  · rintro @⟨_, gap, note, rest, hnamed, hgap, hnote, hrest⟩
    have hname : name? (name.toList ++ (gap ++ note ++ '=' :: rest)) =
        some (name, gap ++ note ++ '=' :: rest) :=
      name?_eq_some_iff.mpr ⟨hnamed, hnote.stops hgap rest, rfl⟩
    have hassigns : isAssignment (gap ++ note ++ '=' :: rest) = true :=
      isAssignment_eq_true_iff.mpr ⟨gap, note, rest, hgap, hnote, hrest, rfl⟩
    rw [hname]
    dsimp only
    rw [if_pos hassigns]

/-! ### Both -/

theorem defined?_eq_some_iff : defined? statement = some name ↔ Heads statement name ∨
    ∃ gap behind, Separates gap ∧ Heads behind name ∧
      statement = "async".toList ++ gap ++ behind := by
  rw [defined?]
  constructor
  · intro h
    cases hasync : afterWord? "async" statement with
    | none =>
      rw [hasync] at h
      exact .inl (heading?_eq_some_iff.mp h)
    | some behind =>
      rw [hasync] at h
      obtain ⟨gap, hgap, -, rfl⟩ := afterWord?_eq_some_iff.mp hasync
      exact .inr ⟨gap, behind, hgap, heading?_eq_some_iff.mp h, rfl⟩
  · rintro (hheads | ⟨gap, behind, hgap, hheads, rfl⟩)
    · have hasync : afterWord? "async" statement = none := by
        refine afterWord?_eq_none (by decide) ?_
        rcases hheads.lead_eq with h | h <;> rw [h] <;> decide
      rw [hasync]
      exact heading?_eq_some_iff.mpr hheads
    · have hstops : Stops isGap behind := by
        refine stops_of_lead ?_
        rcases hheads.lead_eq with h | h <;> rw [h] <;> decide
      rw [afterWord?_eq_some_iff.mpr ⟨gap, hgap, hstops, rfl⟩]
      exact heading?_eq_some_iff.mpr hheads

/-- An assignment begins with the name, which is none of the words for a definition. -/
theorem Assigns.defined?_eq_none (h : Assigns statement name) (hfree : Source.isKeyword name = false) :
    defined? statement = none := by
  have hlead (word : String) (hword : Source.isKeyword word = true) :
      lead statement ≠ word.toList := by
    rw [h.lead_eq]
    intro hname
    rw [← String.toList_inj.mp hname, hfree] at hword
    cases hword
  refine Option.eq_none_iff_forall_ne_some.mpr fun found hfound => ?_
  rcases defined?_eq_some_iff.mp hfound with hheads | ⟨gap, behind, hgap, -, rfl⟩
  · rcases hheads.lead_eq with h | h
    · exact hlead "def" (by decide) h
    · exact hlead "class" (by decide) h
  · refine hlead "async" (by decide) ?_
    rw [List.append_assoc]
    exact lead_append (by decide) (hgap.stops behind)

theorem ofDefinition_eq_singleton_iff : ofDefinition statement = [(name, .own)] ↔
    (defined? statement <|> assigned? statement) = some name ∧ Source.isKeyword name = false := by
  rw [ofDefinition]
  split
  · next hnone => simp [hnone]
  · next found hfound =>
    rw [hfound, Option.some.injEq]
    by_cases hkeyword : Source.isKeyword found = true
    · rw [if_pos hkeyword]
      refine ⟨nofun, ?_⟩
      rintro ⟨rfl, hfree⟩
      exact absurd hkeyword (Bool.eq_false_iff.mp hfree)
    · rw [if_neg hkeyword]
      refine ⟨fun h => ?_, fun ⟨h, _⟩ => by rw [h]⟩
      cases h
      exact ⟨rfl, eq_false_of_ne_true hkeyword⟩

/-- What a statement defines or assigns to is found, and nothing else. -/
theorem ofDefinition_eq_iff : ofDefinition statement = [(name, .own)] ↔ Defines statement name := by
  rw [ofDefinition_eq_singleton_iff, Option.orElse_eq_some, defined?_eq_some_iff,
    assigned?_eq_some_iff]
  constructor
  · rintro ⟨(hheads | ⟨gap, behind, hgap, hheads, rfl⟩) | ⟨-, hassigns⟩, hfree⟩
    · exact .definition hheads hfree
    · exact .async hgap hheads hfree
    · exact .assignment hassigns hfree
  · rintro (⟨hheads, hfree⟩ | ⟨hgap, hheads, hfree⟩ | ⟨hassigns, hfree⟩)
    · exact ⟨.inl (.inl hheads), hfree⟩
    · exact ⟨.inl (.inr ⟨_, _, hgap, hheads, rfl⟩), hfree⟩
    · exact ⟨.inr ⟨hassigns.defined?_eq_none hfree, hassigns⟩, hfree⟩

theorem mem_ofDefinition_iff : b ∈ ofDefinition statement ↔ Defines statement b.1 ∧ b.2 = .own := by
  rw [← ofDefinition_eq_iff]
  constructor
  · intro hb
    rw [ofDefinition] at hb ⊢
    split at hb
    · cases hb
    · split at hb
      · cases hb
      · next hfree =>
        rw [List.mem_singleton] at hb
        subst hb
        rw [if_neg hfree]
        exact ⟨rfl, rfl⟩
  · rintro ⟨hdefines, hown⟩
    rw [hdefines, ← hown]
    exact List.mem_singleton_self b

end Playground.Binding
