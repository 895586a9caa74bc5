import Mathlib.Data.List.TakeWhile
import Playground.Completion.Binding
import Playground.Proofs.Workspace.FileName

/-!
# Names found line by line

A text is searched three times for the names that it binds, and what was found is sorted by its place.
No search reads beyond the line that it begins with, and no two lines begin at one place. So the names
are those of the lines one after the other, and those of a line in the order of the searches.

- `ReadsLine`: what it is for a search not to read beyond its line, with one lemma for each of them.
- `mergeSort_flatMap`: what was found in several searches of the same places, sorted by place.
- `ofText_eq`: the names of a text by those of its lines.
- `map_fst_ofText` and `lookup_ofText`: of two bindings of a name the first counts.
-/

namespace Playground

/-! ## First occurrences -/

namespace Completion

variable {α : Type}

theorem map_firstsAfter (key : α → String) (seen : List String) (xs : List α) :
    (firstsAfter key seen xs).map key =
      ((xs.map key).filter fun k => !seen.contains k).eraseDups := by
  induction xs generalizing seen with
  | nil => rfl
  | cons x xs ih =>
    rw [firstsAfter, List.map_cons, List.filter_cons]
    by_cases hseen : seen.contains (key x) = true
    · simp only [hseen, if_true, Bool.not_true, Bool.false_eq_true, if_false]
      exact ih seen
    · rw [Bool.not_eq_true] at hseen
      simp only [hseen, Bool.false_eq_true, if_false, Bool.not_false, if_true, List.map_cons, ih]
      rw [List.eraseDups_cons, List.filter_filter]
      congr 3
      funext k
      rw [List.contains_cons, Bool.not_or]

/-- The keys are the first occurrences of all keys. -/
theorem map_firsts (key : α → String) (xs : List α) :
    (firsts key xs).map key = (xs.map key).eraseDups := by
  rw [firsts, map_firstsAfter]
  simp

theorem lookup_firstsAfter (name : String) (seen : List String) (xs : List (String × α)) :
    (firstsAfter Prod.fst seen xs).lookup name =
      if seen.contains name = true then none else xs.lookup name := by
  induction xs generalizing seen with
  | nil => simp [firstsAfter]
  | cons x xs ih =>
    obtain ⟨key, value⟩ := x
    rw [firstsAfter]
    by_cases hname : name = key
    · -- the entry has the name: it counts unless the name has been seen
      subst hname
      by_cases hseen : seen.contains name = true
      · simp only [hseen, if_true]
        rw [ih, if_pos hseen]
      · simp only [hseen, Bool.false_eq_true, if_false]
        rw [List.lookup_cons_self, List.lookup_cons_self]
    · have hbeq : (name == key) = false := beq_false_of_ne hname
      by_cases hseen : seen.contains key = true
      · simp only [hseen, if_true, List.lookup_cons, hbeq]
        exact ih seen
      · simp only [hseen, Bool.false_eq_true, if_false, List.lookup_cons, hbeq, ih,
          List.contains_cons, Bool.false_or]

/-- A key has its first value. -/
theorem lookup_firsts (name : String) (xs : List (String × α)) :
    (firsts Prod.fst xs).lookup name = xs.lookup name := by
  rw [firsts, lookup_firstsAfter]
  rfl

theorem not_mem_of_mem_firstsAfter {key : α → String} {seen : List String} {xs : List α} {x : α}
    (hx : x ∈ firstsAfter key seen xs) : key x ∉ seen := by
  induction xs generalizing seen with
  | nil => cases hx
  | cons y ys ih =>
    rw [firstsAfter] at hx
    split at hx
    · exact ih hx
    · next hseen =>
      rcases List.mem_cons.mp hx with rfl | hx
      · simpa using hseen
      · exact fun hmem => ih hx (List.mem_cons_of_mem _ hmem)

/-- No key occurs twice. -/
theorem nodup_map_firstsAfter (key : α → String) (seen : List String) (xs : List α) :
    ((firstsAfter key seen xs).map key).Nodup := by
  induction xs generalizing seen with
  | nil => exact .nil
  | cons x xs ih =>
    rw [firstsAfter]
    split
    · exact ih seen
    · refine List.nodup_cons.mpr ⟨fun hmem => ?_, ih _⟩
      obtain ⟨y, hy, hkey⟩ := List.mem_map.mp hmem
      exact not_mem_of_mem_firstsAfter hy (hkey ▸ List.mem_cons_self)

/-- Entries with different keys stay, and what follows them has to have other keys. -/
theorem firstsAfter_append {key : α → String} {seen : List String} {xs : List α}
    (hxs : (xs.map key).Nodup) (hseen : ∀ x ∈ xs, key x ∉ seen) (ys : List α) :
    firstsAfter key seen (xs ++ ys) = xs ++ firstsAfter key ((xs.map key).reverse ++ seen) ys := by
  induction xs generalizing seen with
  | nil => rfl
  | cons x xs ih =>
    obtain ⟨hx, hxs⟩ := List.nodup_cons.mp hxs
    obtain ⟨hfirst, hseen⟩ := List.forall_mem_cons.mp hseen
    have hnext : ∀ y ∈ xs, key y ∉ key x :: seen := fun y hy => by
      rw [List.mem_cons, not_or]
      exact ⟨fun h => hx (h ▸ List.mem_map_of_mem hy), hseen y hy⟩
    rw [List.cons_append, firstsAfter, if_neg (by simpa using hfirst), ih hxs hnext]
    simp

theorem firstsAfter_sublist (key : α → String) (seen : List String) (xs : List α) :
    (firstsAfter key seen xs).Sublist xs := by
  induction xs generalizing seen with
  | nil => exact .slnil
  | cons x xs ih =>
    rw [firstsAfter]
    split
    · exact (ih seen).cons x
    · exact (ih _).cons_cons x

end Completion

namespace Binding

/-! ## Places -/

section

variable {α β : Type}

theorem mem_of_filter_eq {xs ys : List (Nat × α)} {x : Nat × α}
    (h : ∀ place, xs.filter (·.1 == place) = ys.filter (·.1 == place)) (hx : x ∈ xs) : x ∈ ys := by
  have hmem : x ∈ ys.filter (·.1 == x.1) := h x.1 ▸ List.mem_filter.mpr ⟨hx, beq_self_eq_true _⟩
  exact List.mem_of_mem_filter hmem

/-- Two lists that are sorted by place are the same if they have the same entries at each place. -/
theorem eq_of_filter_eq {xs ys : List (Nat × α)} (hxs : xs.Pairwise fun a b => a.1 ≤ b.1)
    (hys : ys.Pairwise fun a b => a.1 ≤ b.1)
    (h : ∀ place, xs.filter (·.1 == place) = ys.filter (·.1 == place)) : xs = ys := by
  induction xs generalizing ys with
  | nil =>
    cases ys with
    | nil => rfl
    | cons y ys => simpa using h y.1
  | cons x xs ih =>
    cases ys with
    | nil => simpa using h x.1
    | cons y ys =>
      obtain ⟨hx, hxs⟩ := List.pairwise_cons.mp hxs
      obtain ⟨hy, hys'⟩ := List.pairwise_cons.mp hys
      -- each head is among the entries of the other list, so neither comes before the other
      have hxmem : x ∈ y :: ys := mem_of_filter_eq h List.mem_cons_self
      have hymem : y ∈ x :: xs := mem_of_filter_eq (fun place => (h place).symm) List.mem_cons_self
      have hplace : x.1 = y.1 := by
        refine Nat.le_antisymm ?_ ?_
        · rcases List.mem_cons.mp hymem with rfl | hmem
          · exact Nat.le_refl _
          · exact hx y hmem
        · rcases List.mem_cons.mp hxmem with rfl | hmem
          · exact Nat.le_refl _
          · exact hy x hmem
      have hhead := h x.1
      rw [List.filter_cons_of_pos (by simp), List.filter_cons_of_pos (by simp [hplace])] at hhead
      obtain ⟨rfl, -⟩ := List.cons.inj hhead
      refine congrArg (x :: ·) (ih hxs hys' fun place => ?_)
      have hrest := h place
      rw [List.filter_cons, List.filter_cons] at hrest
      split at hrest
      · exact (List.cons.inj hrest).2
      · exact hrest

/-- Places can be compared, and in a row. -/
theorem place_trans (a b c : Nat × α) :
    decide (a.1 ≤ b.1) = true → decide (b.1 ≤ c.1) = true → decide (a.1 ≤ c.1) = true := by
  simp only [decide_eq_true_eq]
  omega

theorem place_total (a b : Nat × α) : (decide (a.1 ≤ b.1) || decide (b.1 ≤ a.1)) = true := by
  simp only [Bool.or_eq_true, decide_eq_true_eq]
  omega

theorem pairwise_mergeSort (xs : List (Nat × α)) :
    (xs.mergeSort fun a b => a.1 ≤ b.1).Pairwise fun a b => a.1 ≤ b.1 :=
  (List.pairwise_mergeSort place_trans place_total xs).imp of_decide_eq_true

/-- Sorting by place keeps the entries at a place in order. -/
theorem filter_mergeSort (xs : List (Nat × α)) (place : Nat) :
    (xs.mergeSort fun a b => a.1 ≤ b.1).filter (·.1 == place) = xs.filter (·.1 == place) := by
  have hplace : ∀ a ∈ xs.filter (·.1 == place), a.1 = place := fun a ha => by
    simpa using List.of_mem_filter ha
  have hsame : (xs.filter (·.1 == place)).Pairwise fun a b => decide (a.1 ≤ b.1) = true :=
    List.pairwise_of_forall_mem_list fun a ha b hb => by simp [hplace a ha, hplace b hb]
  -- the entries at a place are in order, so that sorting keeps them as they are
  have hsublist := List.sublist_mergeSort place_trans place_total hsame List.filter_sublist
  have hfilter := hsublist.filter (·.1 == place)
  rw [List.filter_eq_self.mpr fun a ha => by simp [hplace a ha]] at hfilter
  have hperm := (List.mergeSort_perm xs fun a b => decide (a.1 ≤ b.1)).filter (·.1 == place)
  exact (hfilter.eq_of_length hperm.length_eq.symm).symm

/-- Entries that are tagged with the place where they were found. -/
def tagged (found : β → List α) (p : Nat × β) : List (Nat × α) :=
  (found p.2).map (p.1, ·)

theorem filter_tagged (found : β → List α) (p : Nat × β) (place : Nat) :
    (tagged found p).filter (·.1 == place) = if p.1 = place then tagged found p else [] := by
  split
  · next h => exact List.filter_eq_self.mpr (by simp [tagged, h])
  · next h => exact List.filter_eq_nil_iff.mpr (by simp [tagged, h])

/-- What was found at later places is not there at an earlier one. -/
theorem filter_flatMap_tagged (found : β → List α) {ps : List (Nat × β)} {place : Nat}
    (h : ∀ p ∈ ps, place < p.1) : (ps.flatMap (tagged found)).filter (·.1 == place) = [] := by
  rw [List.filter_flatMap, List.flatMap_eq_nil_iff]
  intro p hp
  have hlt := h p hp
  rw [filter_tagged, if_neg (by omega)]

/-- What was found at the places one after the other is sorted by place. -/
theorem pairwise_flatMap_tagged (found : β → List α) {ps : List (Nat × β)}
    (hps : ps.Pairwise fun p q => p.1 < q.1) :
    (ps.flatMap (tagged found)).Pairwise fun a b => a.1 ≤ b.1 := by
  rw [List.pairwise_flatMap]
  refine ⟨fun p _ => List.pairwise_map.mpr (List.pairwise_of_forall fun _ _ => Nat.le_refl _),
    hps.imp fun {p q} hlt x hx y hy => ?_⟩
  obtain ⟨-, -, rfl⟩ := List.mem_map.mp hx
  obtain ⟨-, -, rfl⟩ := List.mem_map.mp hy
  exact Nat.le_of_lt hlt

/-- What was found in three searches of the same places, sorted by place, is what was found at the
places one after the other. -/
theorem mergeSort_flatMap {ps : List (Nat × β)} (hps : ps.Pairwise fun p q => p.1 < q.1)
    (f g h : β → List α) :
    ((ps.flatMap (tagged f) ++ ps.flatMap (tagged g) ++ ps.flatMap (tagged h)).mergeSort
      fun a b => a.1 ≤ b.1) = ps.flatMap (tagged fun b => f b ++ g b ++ h b) := by
  refine eq_of_filter_eq (pairwise_mergeSort _) (pairwise_flatMap_tagged _ hps) fun place => ?_
  rw [filter_mergeSort, List.filter_append, List.filter_append]
  induction ps with
  | nil => rfl
  | cons p ps ih =>
    obtain ⟨hp, hps⟩ := List.pairwise_cons.mp hps
    simp only [List.flatMap_cons, List.filter_append, filter_tagged]
    by_cases hplace : p.1 = place
    · -- nothing else is found there
      subst hplace
      simp only [filter_flatMap_tagged _ hp, if_true, List.append_nil, tagged, List.map_append]
    · simp only [hplace, if_false, List.nil_append]
      exact ih hps

end

/-! ## Lines -/

/-- The line that a text begins with. -/
def lineOf (text : List Char) : List Char :=
  text.takeWhile (· != '\n')

theorem lineOf_append {front : List Char} (hfront : '\n' ∉ front) (text : List Char) :
    lineOf (front ++ text) = front ++ lineOf text :=
  List.takeWhile_append_of_pos fun c hc => by simpa using ne_of_mem_of_not_mem hc hfront

theorem lineOf_cons {c : Char} (hc : c ≠ '\n') (text : List Char) :
    lineOf (c :: text) = c :: lineOf text :=
  List.takeWhile_cons_of_pos (by simpa using hc)

/-- What is read of a text does not go beyond the line that it begins with. -/
def ReadsLine {α : Type} (read : List Char → α) : Prop :=
  ∀ text, read (lineOf text) = read text

section

variable {p : Char → Bool} (hp : p '\n' = false)
include hp

theorem dropWhile_lineOf : ∀ text, (lineOf text).dropWhile p = lineOf (text.dropWhile p)
  | [] => rfl
  | c :: text => by
    by_cases hc : c = '\n'
    · subst hc
      rw [List.dropWhile_cons_of_neg (by simp [hp])]
      rfl
    · by_cases hpc : p c = true
      · rw [lineOf_cons hc, List.dropWhile_cons_of_pos hpc, List.dropWhile_cons_of_pos hpc,
          dropWhile_lineOf text]
      · rw [List.dropWhile_cons_of_neg hpc, lineOf_cons hc, List.dropWhile_cons_of_neg hpc]

theorem takeWhile_lineOf (text : List Char) : (lineOf text).takeWhile p = text.takeWhile p := by
  have hboth : (fun c => decide (p c = true ∧ (c != '\n') = true)) = p := by
    funext c
    by_cases hc : c = '\n'
    · simp [hc, hp]
    · simp [hc]
  rw [lineOf, List.takeWhile_takeWhile, hboth]

theorem any_head?_lineOf (text : List Char) : (lineOf text).head?.any p = text.head?.any p := by
  rw [lineOf, List.head?_takeWhile]
  cases text.head? with
  | none => rfl
  | some c =>
    by_cases hc : c = '\n'
    · simp [Option.filter, hc, hp]
    · simp [Option.filter, hc]

end

theorem isGap_lineFeed : isGap '\n' = false := by decide

theorem isWord_lineFeed : Text.isWord '\n' = false := by decide

/-- What follows a word on its line. -/
theorem afterWord?_lineOf {word : String} (hword : '\n' ∉ word.toList) (text : List Char) :
    afterWord? word (lineOf text) = (afterWord? word text).map lineOf := by
  by_cases hprefix : word.toList <+: text
  · obtain ⟨rest, rfl⟩ := hprefix
    have hdrop : ∀ rest, (word.toList ++ rest).drop word.length = rest := fun rest =>
      List.drop_left' String.length_toList
    rw [lineOf_append hword, afterWord?, afterWord?,
      if_pos (List.isPrefixOf_iff_prefix.mpr (List.prefix_append _ _)),
      if_pos (List.isPrefixOf_iff_prefix.mpr (List.prefix_append _ _)), hdrop, hdrop]
    dsimp only
    rw [any_head?_lineOf isGap_lineFeed, dropWhile_lineOf isGap_lineFeed]
    split <;> rfl
  · have hline : ¬ word.toList <+: lineOf text := fun h => hprefix (h.trans (List.takeWhile_prefix _))
    rw [← List.isPrefixOf_iff_prefix] at hprefix hline
    rw [afterWord?, afterWord?, if_neg hprefix, if_neg hline, Option.map_none]

/-- A name at the start of a line is there without what follows the line. -/
theorem name?_lineOf (text : List Char) :
    name? (lineOf text) = (name? text).map fun (name, rest) => (name, lineOf rest) := by
  cases text with
  | nil => rfl
  | cons c rest =>
    by_cases hc : c = '\n'
    · subst hc
      rw [name?, isWord_lineFeed]
      rfl
    · have htake := takeWhile_lineOf isWord_lineFeed (c :: rest)
      have hdrop := dropWhile_lineOf isWord_lineFeed (c :: rest)
      rw [lineOf_cons hc] at htake hdrop ⊢
      rw [name?, name?, htake, hdrop]
      split <;> rfl

/-- An equals sign, and whether there is a second one, are seen on their line. -/
theorem equals_lineOf (target : List Char) :
    ((lineOf target).head?.any (· == '=') && !(lineOf target).tail.head?.any (· == '=')) =
      (target.head?.any (· == '=') && !target.tail.head?.any (· == '=')) := by
  have hequals : ('\n' == '=') = false := by decide
  rw [any_head?_lineOf hequals]
  cases target with
  | nil => rfl
  | cons c rest =>
    by_cases hc : c = '='
    · subst hc
      rw [lineOf_cons (by decide), List.tail_cons, List.tail_cons, any_head?_lineOf hequals]
    · have hhead : (c :: rest).head?.any (· == '=') = false := by simpa using hc
      rw [hhead, Bool.false_and, Bool.false_and]

theorem isAssignment_lineOf (text : List Char) : isAssignment (lineOf text) = isAssignment text := by
  have hcolon : ('\n' == ':') = false := by decide
  have hannotation : inAnnotation '\n' = false := by decide
  unfold isAssignment
  dsimp only
  rw [dropWhile_lineOf isGap_lineFeed, any_head?_lineOf hcolon, dropWhile_lineOf hannotation,
    ← apply_ite lineOf]
  exact equals_lineOf _

/-! ## Statements -/

theorem readsLine_ofImport : ReadsLine ofImport := by
  intro text
  have hlist : inModuleList '\n' = false := by decide
  rw [ofImport, ofImport, afterWord?_lineOf (by decide)]
  cases afterWord? "import" text with
  | none => rfl
  | some list =>
    dsimp only [Option.map_some]
    rw [takeWhile_lineOf hlist]

theorem attributeList_lineOf (text : List Char) : attributeList (lineOf text) = attributeList text := by
  have hlist : inAttributeList '\n' = false := by decide
  rw [attributeList, attributeList, takeWhile_lineOf hlist]

theorem readsLine_ofImportFrom : ReadsLine ofImportFrom := by
  intro text
  have hmodule : inModuleName '\n' = false := by decide
  rw [ofImportFrom, ofImportFrom, afterWord?_lineOf (by decide)]
  cases afterWord? "from" text with
  | none => rfl
  | some source =>
    dsimp only [Option.map_some]
    rw [takeWhile_lineOf hmodule, dropWhile_lineOf hmodule, any_head?_lineOf isGap_lineFeed,
      dropWhile_lineOf isGap_lineFeed, afterWord?_lineOf (by decide)]
    cases afterWord? "import" ((source.dropWhile inModuleName).dropWhile isGap) with
    | none => rfl
    | some list =>
      dsimp only [Option.map_some]
      rw [attributeList_lineOf]

theorem readsLine_heading? : ReadsLine heading? := by
  intro text
  have hor : ((afterWord? "def" text).map lineOf <|> (afterWord? "class" text).map lineOf) =
      (afterWord? "def" text <|> afterWord? "class" text).map lineOf := by
    cases afterWord? "def" text <;> rfl
  rw [heading?, heading?, afterWord?_lineOf (by decide), afterWord?_lineOf (by decide), hor]
  cases (afterWord? "def" text <|> afterWord? "class" text) with
  | none => rfl
  | some rest =>
    dsimp only [Option.map_some]
    rw [name?_lineOf, Option.map_map]
    rfl

theorem readsLine_defined? : ReadsLine defined? := by
  intro text
  have hasync : (afterWord? "async" (lineOf text)).getD (lineOf text) =
      lineOf ((afterWord? "async" text).getD text) := by
    rw [afterWord?_lineOf (by decide)]
    cases afterWord? "async" text <;> rfl
  rw [defined?, defined?, hasync]
  exact readsLine_heading? _

theorem readsLine_assigned? : ReadsLine assigned? := by
  intro text
  rw [assigned?, assigned?, name?_lineOf]
  cases name? text with
  | none => rfl
  | some found =>
    dsimp only [Option.map_some]
    rw [isAssignment_lineOf]

theorem readsLine_ofDefinition : ReadsLine ofDefinition := by
  intro text
  rw [ofDefinition, ofDefinition, readsLine_defined?, readsLine_assigned?]

/-! ## Texts -/

/-- The names that a line binds. -/
def ofLine (line : List Char) : List (String × Binding) :=
  let statement := line.dropWhile isGap
  ofImport statement ++ ofImportFrom statement ++ ofDefinition statement

theorem readsLine_ofLine : ReadsLine ofLine := by
  intro text
  simp only [ofLine, dropWhile_lineOf isGap_lineFeed, readsLine_ofImport _, readsLine_ofImportFrom _,
    readsLine_ofDefinition _]

theorem lt_of_mem_beginningsFrom {text : List Char} {n : Nat} {p : Nat × List Char}
    (hp : p ∈ beginningsFrom n text) : n < p.1 := by
  induction text generalizing n with
  | nil => cases hp
  | cons c rest ih =>
    rw [beginningsFrom] at hp
    split at hp
    · rcases List.mem_cons.mp hp with rfl | hp
      · exact Nat.lt_succ_self n
      · exact (Nat.lt_succ_self n).trans (ih hp)
    · exact (Nat.lt_succ_self n).trans (ih hp)

/-- No two lines begin at one place. -/
theorem pairwise_beginningsFrom (text : List Char) (n : Nat) :
    (beginningsFrom n text).Pairwise fun p q => p.1 < q.1 := by
  induction text generalizing n with
  | nil => exact .nil
  | cons c rest ih =>
    rw [beginningsFrom]
    split
    · exact .cons (fun q hq => lt_of_mem_beginningsFrom hq) (ih _)
    · exact ih _

theorem pairwise_beginnings (text : List Char) :
    (beginnings text).Pairwise fun p q => p.1 < q.1 :=
  .cons (fun _ hq => lt_of_mem_beginningsFrom hq) (pairwise_beginningsFrom text 0)

/-- The lines of a text are those that stand where they begin. -/
theorem pieces_eq (text : List Char) (n : Nat) :
    Text.pieces '\n' text =
      lineOf text :: (beginningsFrom n text).map fun p => lineOf p.2 := by
  induction text generalizing n with
  | nil => rfl
  | cons c rest ih =>
    rw [Text.pieces, ih (n + 1), beginningsFrom]
    dsimp only
    by_cases hc : c = '\n'
    · have hline : lineOf (c :: rest) = [] := List.takeWhile_cons_of_neg (by simp [hc])
      rw [if_pos hc, if_pos hc, hline, List.map_cons]
    · rw [if_neg hc, if_neg hc, lineOf_cons hc]

/-- What is read where the lines of a text begin is what is read of the lines. -/
theorem flatMap_beginnings {α : Type} {read : List Char → List α} (h : ReadsLine read)
    (text : List Char) : (beginnings text).flatMap (fun p => read p.2) =
      (Text.pieces '\n' text).flatMap read := by
  rw [pieces_eq text 0, beginnings, List.flatMap_cons, List.flatMap_cons, List.flatMap_map, h]
  simp only [h _]

/-- The names of a text are those of its lines, one after the other. -/
theorem ofText_eq (text : List Char) :
    ofText text = Completion.firsts Prod.fst ((Text.pieces '\n' text).flatMap ofLine) := by
  have hsearch (statement : List Char → List (String × Binding)) :
      search statement text = (beginnings text).flatMap
        (tagged fun rest => statement (rest.dropWhile isGap)) := rfl
  have htagged : (fun p : Nat × List Char => (tagged ofLine p).map Prod.snd) =
      fun p => ofLine p.2 := by
    funext p
    rw [tagged, List.map_map]
    exact List.map_id _
  have hlines : (found text).mergeSort (fun a b => a.1 ≤ b.1) =
      (beginnings text).flatMap (tagged ofLine) := by
    rw [found, hsearch, hsearch, hsearch, mergeSort_flatMap (pairwise_beginnings text)]
    rfl
  rw [ofText, hlines, List.map_flatMap, htagged, flatMap_beginnings readsLine_ofLine]

/-- The names are the first occurrences of those of the lines. -/
theorem map_fst_ofText (text : List Char) : (ofText text).map Prod.fst =
    (((Text.pieces '\n' text).flatMap ofLine).map Prod.fst).eraseDups := by
  rw [ofText_eq, Completion.map_firsts]

/-- A name is bound to what the first line binds it to that does. -/
theorem lookup_ofText (name : String) (text : List Char) :
    (ofText text).lookup name = ((Text.pieces '\n' text).flatMap ofLine).lookup name := by
  rw [ofText_eq, Completion.lookup_firsts]

end Binding

end Playground
