import Mathlib.Data.List.Forall2
import Playground.Proofs.Completion.Search
import Playground.Proofs.Completion.Statements

/-!
# Tidy programs

A program that is made of imports, definitions and assignments, one to a line, is read back: the names
that are found in it are those that the lines bind, in the order in which they first appear, and each
of them has its first binding.

- `Tidy`: such statements, each with what it binds, in order.
- `TidyLine`: a line with one of them, behind any indentation.
- `Tidy.binds_eq`: what a statement binds is found, in order, and by one search only.
- `ofText_intercalate`: a program of any number of lines.
-/

namespace Playground.Binding

open Text (Stops)

/-! ## Statements and lines -/

/-- A name that can be given to something. The letters may be those of any script. -/
structure IsIdentifier (name : String) : Prop where
  named : Chain.IsNamed name.toList
  free : Source.isKeyword name = false

instance (name : String) : Decidable (IsIdentifier name) :=
  decidable_of_iff
    ((Chain.IsWord name.toList ∧ Chain.isName name.toList = true) ∧ Source.isKeyword name = false)
    ⟨fun ⟨⟨hletters, hnamed⟩, hfree⟩ => ⟨⟨hletters, hnamed⟩, hfree⟩,
      fun h => ⟨⟨h.named.letters, h.named.named⟩, h.free⟩⟩

/-- The dotted name of a module, with its first component. -/
inductive Dotted : List Char → String → Prop
  | last {name : String} : IsIdentifier name → Dotted name.toList name
  | more {name next : String} {rest : List Char} : IsIdentifier name → Dotted rest next →
    Dotted (name.toList ++ '.' :: rest) name

/-- What says that a name has an alias. -/
inductive Aliases : List Char → String → Prop
  | mk {gap gap' gap'' : List Char} {asName : String} : Separates gap → Separates gap' →
    IsIdentifier asName → IsSpacing gap'' →
    Aliases (gap ++ "as".toList ++ gap' ++ asName.toList ++ gap'') asName

/-- A module in a list, with what it binds. An alias is bound to the module, and without one the first
component is bound to the module of that name. -/
inductive ListsModule : List Char → String × Binding → Prop
  | plain {name gap : List Char} {first : String} : Dotted name first → IsSpacing gap →
    ListsModule (name ++ gap) (first, .module first)
  | renamed {name back : List Char} {first asName : String} : Dotted name first →
    Aliases back asName → ListsModule (name ++ back) (asName, .module (String.ofList name))

/-- An attribute of a module in a list, with what it binds. -/
inductive ListsAttribute (source : String) : List Char → String × Binding → Prop
  | plain {name : String} {gap : List Char} : IsIdentifier name → IsSpacing gap →
    ListsAttribute source (name.toList ++ gap) (name, .attribute source name)
  | renamed {name asName : String} {back : List Char} : IsIdentifier name → Aliases back asName →
    ListsAttribute source (name.toList ++ back) (asName, .attribute source name)

/-- A list with commas between its items, with what they bind. -/
inductive CommaList (Lists : List Char → String × Binding → Prop) :
    List Char → List (String × Binding) → Prop
  | last {item : List Char} {b : String × Binding} : Lists item b → CommaList Lists item [b]
  | more {item gap rest : List Char} {b : String × Binding} {bs : List (String × Binding)} :
    Lists item b → IsSpacing gap → CommaList Lists rest bs →
    CommaList Lists (item ++ ',' :: (gap ++ rest)) (b :: bs)

/-- A statement of a tidy program, with what it binds. -/
inductive Tidy : List Char → List (String × Binding) → Prop
  | blank : Tidy [] []
  | imports {gap list : List Char} {bs : List (String × Binding)} : Separates gap →
    CommaList ListsModule list bs → Tidy ("import".toList ++ gap ++ list) bs
  | importsFrom {gap source gap' gap'' list : List Char} {first : String}
    {bs : List (String × Binding)} : Separates gap → Dotted source first → Separates gap' →
    Separates gap'' → CommaList (ListsAttribute (String.ofList source)) list bs →
    Tidy ("from".toList ++ gap ++ source ++ gap' ++ "import".toList ++ gap'' ++ list) bs
  | defines {statement : List Char} {name : String} : Defines statement name →
    Tidy statement [(name, .own)]

/-- A line of a tidy program, with what it binds. -/
inductive TidyLine : List Char → List (String × Binding) → Prop
  | mk {indent statement : List Char} {bs : List (String × Binding)} : IsSpacing indent →
    Tidy statement bs → '\n' ∉ statement → TidyLine (indent ++ statement) bs

variable {gap rest text name list source back statement line : List Char} {first asName : String}
  {b : String × Binding} {bs : List (String × Binding)}

/-! ## Names -/

theorem isBlank_of_isGap {c : Char} (h : isGap c = true) : Text.isBlank c = true := by
  rcases eq_of_isGap h with rfl | rfl <;> decide

theorem IsSpacing.isGap (h : IsSpacing gap) : Chain.IsGap gap :=
  fun c hc => isBlank_of_isGap (h c hc)

theorem IsSpacing.startsBlank (h : IsSpacing gap) : Text.StartsBlank gap :=
  fun c hc => h.isGap c (List.mem_of_mem_head? hc)

theorem isWord_dot : Text.isWord '.' = false := by decide

theorem inModuleName_of_isWord {c : Char} (h : Text.isWord c = true) : inModuleName c = true := by
  rw [inModuleName, h, Bool.true_or]

theorem isBlank_of_inModuleName {c : Char} (h : inModuleName c = true) : Text.isBlank c = false := by
  refine Bool.eq_false_iff.mpr fun hblank => ?_
  rw [inModuleName, Text.isWord_of_isBlank hblank, Bool.false_or, beq_iff_eq] at h
  rw [h] at hblank
  exact absurd hblank (by decide)

theorem Dotted.inModuleName (h : Dotted name first) : ∀ c ∈ name, inModuleName c = true := by
  induction h with
  | last hname => exact fun c hc => inModuleName_of_isWord (hname.named.letters c hc)
  | more hname _ ih =>
    rw [List.forall_mem_append, List.forall_mem_cons]
    exact ⟨fun c hc => inModuleName_of_isWord (hname.named.letters c hc), by decide, ih⟩

/-- A dotted name begins with its first component. -/
theorem Dotted.lead_append (h : Dotted name first) (hrest : Stops Text.isWord rest) :
    lead (name ++ rest) = first.toList := by
  cases h with
  | last hname => exact Binding.lead_append hname.named.letters hrest
  | more hname _ =>
    rw [List.append_assoc]
    refine Binding.lead_append hname.named.letters ?_
    rintro c ⟨⟩
    exact isWord_dot

theorem Dotted.isIdentifier (h : Dotted name first) : IsIdentifier first := by
  cases h with
  | last hname => exact hname
  | more hname _ => exact hname

theorem Dotted.ne_nil (h : Dotted name first) : name ≠ [] := by
  cases h with
  | last hname => exact hname.named.ne_nil
  | more => simp

theorem Dotted.isRun (h : Dotted name first) : Text.IsRun name :=
  ⟨h.ne_nil, fun c hc => isBlank_of_inModuleName (h.inModuleName c hc)⟩

/-- Without an alias a module is known by the first component of its name. -/
theorem Dotted.topModule_eq (h : Dotted name first) : topModule (String.ofList name) = first := by
  have hletters : ∀ c ∈ first.toList, (c != '.') = true := fun c hc => by
    rw [bne_iff_ne]
    rintro rfl
    have hletter := h.isIdentifier.named.letters '.' hc
    rw [isWord_dot] at hletter
    cases hletter
  rw [topModule, String.toList_ofList, ← String.toList_inj, String.toList_ofList]
  cases h with
  | last => exact List.takeWhile_eq_self_iff.mpr hletters
  | more =>
    rw [List.takeWhile_append_of_pos hletters, List.takeWhile_cons_of_neg (by decide),
      List.append_nil]

/-! ## Items -/

/-- The characters of the items in a list. -/
def inItem (c : Char) : Bool :=
  inModuleName c || isGap c

/-- What it takes for a text to be read as an item of a list. -/
structure ReadsItem (bind : String × Option String → String × Binding) (text : List Char)
    (b : String × Binding) : Prop where
  starts : lead text ≠ []
  inItem : ∀ c ∈ text, inItem c = true
  item?_eq : (item? text).map bind = some b

theorem Aliases.renames (h : Aliases back asName) : Renames back asName.toList := by
  obtain ⟨hgap, hgap', hasName, hback⟩ := h
  exact .mk hgap.spacing.isGap hgap.ne_nil hgap'.spacing.isGap hgap'.ne_nil
    ⟨hasName.named.ne_nil, hasName.named.letters.isBlank⟩ hback.startsBlank

theorem Dotted.item?_append_gap (h : Dotted name first) (hgap : IsSpacing gap) :
    item? (name ++ gap) = some (String.ofList name, none) := by
  refine item?_plain (List.forall_mem_nil _) h.isRun hgap.startsBlank fun asName hrenames => ?_
  obtain ⟨ws, hwords⟩ := (renames_iff hgap.startsBlank).mp hrenames
  rw [Text.words_eq_nil hgap.isGap] at hwords
  cases hwords

theorem Dotted.item?_append_alias (h : Dotted name first) (hback : Aliases back asName) :
    item? (name ++ back) = some (String.ofList name, some asName) := by
  have hitem := item?_renamed (List.forall_mem_nil _) h.isRun hback.renames
  rwa [String.ofList_toList, List.nil_append] at hitem

theorem inItem_of_isGap {c : Char} (h : isGap c = true) : inItem c = true := by
  rw [inItem, h, Bool.or_true]

theorem inItem_of_inModuleName {c : Char} (h : inModuleName c = true) : inItem c = true := by
  rw [inItem, h, Bool.true_or]

theorem IsSpacing.inItem (h : IsSpacing gap) : ∀ c ∈ gap, inItem c = true :=
  fun c hc => inItem_of_isGap (h c hc)

theorem Aliases.inItem (h : Aliases back asName) : ∀ c ∈ back, inItem c = true := by
  obtain ⟨hgap, hgap', hasName, hback⟩ := h
  simp only [List.forall_mem_append]
  exact ⟨⟨⟨⟨hgap.spacing.inItem, List.all_eq_true.mp (by decide)⟩, hgap'.spacing.inItem⟩,
    fun c hc => inItem_of_inModuleName (inModuleName_of_isWord (hasName.named.letters c hc))⟩,
    hback.inItem⟩

theorem IsSpacing.stops (h : IsSpacing gap) : Stops Text.isWord gap :=
  fun c hc => isWord_of_isGap (h c (List.mem_of_mem_head? hc))

theorem Aliases.stops (h : Aliases back asName) : Stops Text.isWord back := by
  obtain ⟨hgap, -, -, -⟩ := h
  simp only [List.append_assoc]
  exact hgap.stops _

/-- A dotted name with something behind it that is no part of a name is an item if it is read as one. -/
theorem Dotted.readsItem {bind : String × Option String → String × Binding} (h : Dotted name first)
    (hstops : Stops Text.isWord back) (hback : ∀ c ∈ back, inItem c = true)
    (hitem : (item? (name ++ back)).map bind = some b) : ReadsItem bind (name ++ back) b where
  starts := by
    rw [h.lead_append hstops]
    exact h.isIdentifier.named.ne_nil
  inItem := List.forall_mem_append.mpr
    ⟨fun c hc => inItem_of_inModuleName (h.inModuleName c hc), hback⟩
  item?_eq := hitem

theorem ListsModule.readsItem (h : ListsModule text b) : ReadsItem ofModule text b := by
  cases h with
  | plain hname hgap =>
    refine hname.readsItem hgap.stops hgap.inItem ?_
    rw [hname.item?_append_gap hgap, Option.map_some, ofModule, hname.topModule_eq]
  | renamed hname hback =>
    refine hname.readsItem hback.stops hback.inItem ?_
    rw [hname.item?_append_alias hback, Option.map_some, ofModule]

theorem ListsAttribute.readsItem {source : String} (h : ListsAttribute source text b) :
    ReadsItem (fun (name, asName) => (asName.getD name, .attribute source name)) text b := by
  cases h with
  | plain hname hgap =>
    refine (Dotted.last hname).readsItem hgap.stops hgap.inItem ?_
    rw [(Dotted.last hname).item?_append_gap hgap, String.ofList_toList]
    rfl
  | renamed hname hback =>
    refine (Dotted.last hname).readsItem hback.stops hback.inItem ?_
    rw [(Dotted.last hname).item?_append_alias hback, String.ofList_toList]
    rfl

/-! ## Lists -/

section

variable {Lists : List Char → String × Binding → Prop}
  {bind : String × Option String → String × Binding}

/-- White space in front of a list makes no difference. -/
theorem splitNames_append (hgap : IsSpacing gap) (list : List Char) :
    splitNames (gap ++ list) = splitNames list := by
  induction gap with
  | nil => rfl
  | cons c gap ih =>
    obtain ⟨hc, hgap⟩ := List.forall_mem_cons.mp hgap
    have hcomma : c ≠ ',' := by
      rintro rfl
      exact absurd hc (by decide)
    have hskip (piece : List Char) : item? (c :: piece) = item? piece := by
      rw [item?, item?, ← List.singleton_append,
        Text.words_gap_append (List.forall_mem_singleton.mpr (isBlank_of_isGap hc))]
    rw [← ih hgap, List.cons_append, splitNames, splitNames, Text.pieces]
    -- the white space belongs to the first piece, and makes no difference to its words
    cases Text.pieces ',' (gap ++ list) with
    | nil => rfl
    | cons p ps =>
      dsimp only
      rw [if_neg hcomma, List.filterMap_cons, List.filterMap_cons, hskip]

theorem comma_not_mem (h : ∀ c ∈ text, inItem c = true) : ',' ∉ text := fun hmem =>
  absurd (h ',' hmem) (by decide)

/-- A list is read item by item. -/
theorem CommaList.map_splitNames (hread : ∀ {item b}, Lists item b → ReadsItem bind item b)
    (h : CommaList Lists list bs) : (splitNames list).map bind = bs := by
  induction h with
  | last hitem =>
    have hitem := hread hitem
    rw [splitNames, Text.pieces_eq_splitOn, List.splitOn_eq_singleton (comma_not_mem hitem.inItem)]
    obtain ⟨entry, hentry, rfl⟩ := Option.map_eq_some_iff.mp hitem.item?_eq
    rw [List.filterMap_cons_some hentry]
    rfl
  | more hitem hgap _ ih =>
    have hitem := hread hitem
    obtain ⟨entry, hentry, rfl⟩ := Option.map_eq_some_iff.mp hitem.item?_eq
    rw [splitNames, Text.pieces_eq_splitOn,
      List.splitOn_append_cons_self_of_not_mem (comma_not_mem hitem.inItem),
      List.filterMap_cons_some hentry, List.map_cons, ← Text.pieces_eq_splitOn, ← splitNames,
      splitNames_append hgap, ih]

/-- A list is made of the characters of its items and of commas. -/
theorem CommaList.inAttributeList (hread : ∀ {item b}, Lists item b → ReadsItem bind item b)
    (h : CommaList Lists list bs) : ∀ c ∈ list, inAttributeList c = true ∧ c ≠ '(' := by
  -- none of the characters that end a list, or open one, is among those of an item
  have hchars {c : Char} (hc : inItem c = true) : Binding.inAttributeList c = true ∧ c ≠ '(' := by
    have hne {d : Char} (hd : inItem d = false) : c ≠ d := by
      rintro rfl
      rw [hc] at hd
      cases hd
    simp only [Binding.inAttributeList, inModuleList, Bool.and_eq_true, bne_iff_ne]
    exact ⟨⟨⟨⟨hne (by decide), hne (by decide)⟩, hne (by decide)⟩, hne (by decide)⟩, hne (by decide)⟩
  induction h with
  | last hitem => exact fun c hc => hchars ((hread hitem).inItem c hc)
  | more hitem hgap _ ih =>
    rw [List.forall_mem_append, List.forall_mem_cons, List.forall_mem_append]
    exact ⟨fun c hc => hchars ((hread hitem).inItem c hc), by decide,
      fun c hc => hchars (inItem_of_isGap (hgap c hc)), ih⟩

theorem CommaList.stops (hread : ∀ {item b}, Lists item b → ReadsItem bind item b)
    (h : CommaList Lists list bs) : Stops isGap list := by
  cases h with
  | last hitem => exact stops_of_lead (hread hitem).starts
  | more hitem =>
    refine Text.stops_append (stops_of_lead (hread hitem).starts) ?_ _
    rintro rfl
    exact (hread hitem).starts rfl

end

/-! ## Programs -/

theorem ofDefinition_eq_nil (h : lead statement = "import".toList ∨ lead statement = "from".toList) :
    ofDefinition statement = [] := by
  refine List.eq_nil_iff_forall_not_mem.mpr fun b hb => ?_
  obtain ⟨hdefines, -⟩ := mem_ofDefinition_iff.mp hb
  rcases h with h | h
  · exact hdefines.lead_ne.1 h
  · exact hdefines.lead_ne.2 h

/-- What a statement of a tidy program binds is found, by one of the searches and no other. -/
theorem Tidy.binds_eq (h : Tidy statement bs) :
    ofImport statement ++ ofImportFrom statement ++ ofDefinition statement = bs := by
  cases h with
  | blank => rfl
  | @imports gap list _ hgap hlist =>
    have hinside : ∀ c ∈ list, inModuleList c = true := fun c hc =>
      (Bool.and_eq_true_iff.mp (hlist.inAttributeList ListsModule.readsItem c hc).1).1
    have himports : ImportsModules ("import".toList ++ gap ++ list) list := by
      rw [← List.append_nil ("import".toList ++ gap ++ list)]
      exact .mk hgap (hlist.stops ListsModule.readsItem) hinside nofun
    -- the other searches look for other words
    have hlead := himports.lead_eq
    rw [himports.ofImport_eq, hlist.map_splitNames ListsModule.readsItem,
      ofImportFrom_eq_nil (by rw [hlead]; decide), ofDefinition_eq_nil (.inl hlead),
      List.append_nil, List.append_nil]
  | @importsFrom gap source gap' gap'' list first _ hgap hsource hgap' hgap'' hlist =>
    have hinside := hlist.inAttributeList ListsAttribute.readsItem
    have hopens : Opens list list := .bare fun h => (hinside '(' (List.mem_of_mem_head? h)).2 rfl
    have himports : ImportsFrom ("from".toList ++ gap ++ source ++ gap' ++ "import".toList ++ gap'' ++
        list) source list := by
      rw [← List.append_nil (_ ++ list)]
      exact .mk hgap hsource.ne_nil hsource.inModuleName hgap' hgap''
        (hlist.stops ListsAttribute.readsItem) (fun c hc => (hinside c hc).1) nofun hopens
    have hlead := himports.lead_eq
    rw [himports.ofImportFrom_eq, hlist.map_splitNames ListsAttribute.readsItem,
      ofImport_eq_nil (by rw [hlead]; decide), ofDefinition_eq_nil (.inr hlead),
      List.nil_append, List.append_nil]
  | defines hdefines =>
    rw [ofImport_eq_nil hdefines.lead_ne.1, ofImportFrom_eq_nil hdefines.lead_ne.2,
      ofDefinition_eq_iff.mpr hdefines]
    rfl

theorem Tidy.stops (h : Tidy statement bs) : Stops isGap statement := by
  cases h with
  | blank => nofun
  | imports => rintro c ⟨⟩; decide
  | importsFrom => rintro c ⟨⟩; decide
  | defines hdefines => exact stops_of_lead hdefines.lead_ne_nil

theorem TidyLine.ofLine_eq (h : TidyLine line bs) : ofLine line = bs := by
  obtain ⟨hindent, htidy, -⟩ := h
  rw [ofLine, htidy.stops.dropWhile_append hindent]
  exact htidy.binds_eq

theorem TidyLine.not_mem (h : TidyLine line bs) : '\n' ∉ line := by
  obtain ⟨hindent, -, hline⟩ := h
  rw [List.mem_append, not_or]
  exact ⟨fun hmem => absurd (hindent _ hmem) (by decide), hline⟩

section

variable {lines : List (List Char)} {bound : List (List (String × Binding))}

theorem flatMap_ofLine (h : List.Forall₂ TidyLine lines bound) :
    lines.flatMap ofLine = bound.flatten := by
  induction h with
  | nil => rfl
  | cons hline _ ih => rw [List.flatMap_cons, List.flatten_cons, hline.ofLine_eq, ih]

theorem lineFeed_not_mem (h : List.Forall₂ TidyLine lines bound) : ∀ line ∈ lines, '\n' ∉ line := by
  induction h with
  | nil => exact List.forall_mem_nil _
  | cons hline _ ih => exact List.forall_mem_cons.mpr ⟨hline.not_mem, ih⟩

/-- The names of a tidy program are those that its lines bind, in the order in which they first appear,
and each has its first binding. -/
theorem ofText_intercalate (h : List.Forall₂ TidyLine lines bound) :
    (ofText (['\n'].intercalate lines)).map Prod.fst = (bound.flatten.map Prod.fst).eraseDups ∧
      ∀ name, (ofText (['\n'].intercalate lines)).lookup name = bound.flatten.lookup name := by
  have hlines : (Text.pieces '\n' (['\n'].intercalate lines)).flatMap ofLine = bound.flatten := by
    rw [← flatMap_ofLine h]
    by_cases hne : lines = []
    · subst hne
      rfl
    · rw [Text.pieces_eq_splitOn, List.splitOn_intercalate '\n' (lineFeed_not_mem h) hne]
  rw [map_fst_ofText, hlines]
  refine ⟨rfl, fun name => ?_⟩
  rw [lookup_ofText, hlines]

/-- A program of all forms, one name of which is bound twice. -/
theorem ofText_intercalate_forms :
    let lines := ["import os.path as p, json".toList, "\tfrom math import pi as q,tau".toList,
      "async def f(x): pass".toList, "p: int = 3".toList]
    let bound : List (List (String × Binding)) :=
      [[("p", .module "os.path"), ("json", .module "json")],
        [("q", .attribute "math" "pi"), ("tau", .attribute "math" "tau")], [("f", .own)],
        [("p", .own)]]
    List.Forall₂ TidyLine lines bound ∧
      (ofText (['\n'].intercalate lines)).map Prod.fst = ["p", "json", "q", "tau", "f"] ∧
      (ofText (['\n'].intercalate lines)).lookup "p" = some (.module "os.path") := by
  intro lines bound
  have hspace : Separates " ".toList := ⟨by decide, by decide⟩
  have hnone : IsSpacing [] := List.forall_mem_nil _
  have halias (asName : String) (hasName : IsIdentifier asName) :
      Aliases (" ".toList ++ "as".toList ++ " ".toList ++ asName.toList ++ []) asName :=
    .mk hspace hspace hasName hnone
  have hpath : Dotted "os.path".toList "os" :=
    @Dotted.more "os" "path" "path".toList (by decide) (.last (by decide))
  have hmodules : CommaList ListsModule
      ("os.path".toList ++ " as p".toList ++ ',' :: (" ".toList ++ ("json".toList ++ [])))
      [("p", .module (String.ofList "os.path".toList)), ("json", .module "json")] :=
    .more (.renamed hpath (halias "p" (by decide))) hspace.spacing
      (.last (.plain (.last (by decide)) hnone))
  have hattributes : CommaList (ListsAttribute (String.ofList "math".toList))
      ("pi".toList ++ " as q".toList ++ ',' :: ([] ++ ("tau".toList ++ [])))
      [("q", .attribute (String.ofList "math".toList) "pi"),
        ("tau", .attribute (String.ofList "math".toList) "tau")] :=
    .more (.renamed (by decide) (halias "q" (by decide))) hnone (.last (.plain (by decide) hnone))
  have hheads : Heads ("def".toList ++ " ".toList ++ ("f".toList ++ "(x): pass".toList)) "f" :=
    .mk (.inl rfl) hspace ⟨by decide, by decide⟩ (by decide)
  have hnote : Annotates ": int ".toList :=
    @Annotates.some " int ".toList (List.all_eq_true.mp (by decide))
  have hassigns : Assigns ("p".toList ++ ([] ++ ": int ".toList ++ '=' :: " 3".toList)) "p" :=
    .mk ⟨by decide, by decide⟩ hnone hnote (by decide)
  have hlines : List.Forall₂ TidyLine lines bound := by
    refine .cons ?_ (.cons ?_ (.cons ?_ (.cons ?_ .nil)))
    · exact @TidyLine.mk [] _ _ hnone (.imports hspace hmodules) (by decide)
    · exact @TidyLine.mk "\t".toList _ _ (by decide)
        (.importsFrom hspace (@Dotted.last "math" (by decide)) hspace hspace hattributes) (by decide)
    · exact @TidyLine.mk [] _ _ hnone (.defines (.async hspace hheads (by decide))) (by decide)
    · exact @TidyLine.mk [] _ _ hnone (.defines (.assignment hassigns (by decide))) (by decide)
  obtain ⟨hkeys, hlookup⟩ := ofText_intercalate hlines
  refine ⟨hlines, hkeys.trans (by decide), (hlookup "p").trans (by decide)⟩

end

end Playground.Binding
