import Mathlib.Data.List.Basic
import Playground.Workspace.FileName

/-!
# Canonical file names

Which file names are accepted, and that what becomes of them is canonical: it has the same
components, and is accepted as it stands.

- `components_join`: a path of components has these components.
- `check_eq_ok_iff`: a name is accepted iff it is valid, and becomes the path of its components.
- `check_canonical`: a canonical name is accepted and stays as it is.
-/

namespace Playground

/-! ## Pieces -/

namespace Text

/-- The pieces of a text are those of the standard library. -/
theorem pieces_eq_splitOn (separator : Char) :
    ∀ s : List Char, pieces separator s = s.splitOn separator
  | [] => rfl
  | c :: rest => by
    rw [pieces, pieces_eq_splitOn separator rest, List.splitOn_cons_eq_if_modifyHead]
    cases hrest : rest.splitOn separator with
    | nil => exact absurd hrest (List.splitOn_ne_nil separator rest)
    | cons p ps => simp only [beq_iff_eq, List.modifyHead_cons]

/-- No piece holds the separator. -/
theorem not_mem_of_mem_pieces {separator : Char} :
    ∀ {s : List Char} {p : List Char}, p ∈ pieces separator s → separator ∉ p
  | [], p, hp => by
    rw [pieces, List.mem_singleton] at hp
    exact hp ▸ List.not_mem_nil
  | c :: rest, p, hp => by
    have hrest : ∀ q ∈ pieces separator rest, separator ∉ q := fun _ => not_mem_of_mem_pieces
    rw [pieces] at hp
    split at hp
    · exact absurd hp List.not_mem_nil
    · next q qs hpieces =>
      rw [hpieces] at hrest
      obtain ⟨hq, hqs⟩ := List.forall_mem_cons.mp hrest
      by_cases hc : c = separator
      · rw [if_pos hc] at hp
        rcases List.mem_cons.mp hp with rfl | hp
        · exact List.not_mem_nil
        · exact hrest p hp
      · rw [if_neg hc] at hp
        rcases List.mem_cons.mp hp with rfl | hp
        · exact List.not_mem_cons_of_ne_of_not_mem (Ne.symm hc) hq
        · exact hqs p hp

/-- A piece is part of the text. -/
theorem subset_of_mem_pieces {separator : Char} :
    ∀ {s : List Char} {p : List Char}, p ∈ pieces separator s → p ⊆ s
  | [], p, hp => by
    rw [pieces, List.mem_singleton] at hp
    exact hp ▸ List.Subset.refl _
  | c :: rest, p, hp => by
    have hrest : ∀ q ∈ pieces separator rest, q ⊆ rest := fun _ => subset_of_mem_pieces
    rw [pieces] at hp
    split at hp
    · exact absurd hp List.not_mem_nil
    · next q qs hpieces =>
      rw [hpieces] at hrest
      obtain ⟨hq, hqs⟩ := List.forall_mem_cons.mp hrest
      split at hp
      · rcases List.mem_cons.mp hp with rfl | hp
        · exact List.nil_subset _
        · exact List.subset_cons_of_subset c (hrest p hp)
      · rcases List.mem_cons.mp hp with rfl | hp
        · exact List.cons_subset_cons c hq
        · exact List.subset_cons_of_subset c (hqs p hp)

end Text

namespace FileName

/-! ## Components -/

/-- A component of a path: a text without slashes that says something. -/
structure IsComponent (c : List Char) : Prop where
  nonempty : c ≠ []
  proper : c ≠ ['.']
  whole : '/' ∉ c

theorem isComponent_of_mem {name c : List Char} (hc : c ∈ components name) : IsComponent c := by
  obtain ⟨hpiece, hproper⟩ := List.mem_filter.mp hc
  obtain ⟨hne, hdot⟩ := of_decide_eq_true hproper
  exact ⟨hne, hdot, Text.not_mem_of_mem_pieces hpiece⟩

/-- A path of components has these components. -/
theorem components_join {cs : List (List Char)} (hne : cs ≠ []) (hcs : ∀ c ∈ cs, IsComponent c) :
    components (join cs).toList = cs := by
  have hpieces : Text.pieces '/' (['/'].intercalate cs) = cs := by
    rw [Text.pieces_eq_splitOn]
    exact List.splitOn_intercalate '/' (fun c hc => (hcs c hc).whole) hne
  rw [components, join, String.toList_ofList, hpieces, List.filter_eq_self]
  exact fun c hc => decide_eq_true ⟨(hcs c hc).nonempty, (hcs c hc).proper⟩

/-- Besides slashes, a path holds the characters of its components. -/
theorem mem_intercalate_iff {x : Char} (hx : x ≠ '/') :
    ∀ {cs : List (List Char)}, x ∈ ['/'].intercalate cs ↔ ∃ c ∈ cs, x ∈ c
  | [] => by simp
  | [c] => by simp
  | c :: d :: rest => by
    rw [List.intercalate_cons_cons, List.mem_append, List.mem_append, List.mem_singleton,
      or_iff_left hx, mem_intercalate_iff hx]
    exact (List.exists_mem_cons_iff _ c (d :: rest)).symm

/-- The characters of a component are among those of the name. -/
theorem mem_of_mem_components {name c : List Char} (hc : c ∈ components name) {x : Char}
    (hx : x ∈ c) : x ∈ name := by
  have hne : x ≠ '/' := fun h => (isComponent_of_mem hc).whole (h ▸ hx)
  have hname : ['/'].intercalate (name.splitOn '/') = name := List.intercalate_splitOn '/'
  rw [← hname, ← Text.pieces_eq_splitOn, mem_intercalate_iff hne]
  exact ⟨c, List.mem_of_mem_filter hc, hx⟩

/-! ## Accepted names -/

/-- A name that is accepted: a relative path that stays below its directory, and does not begin
with a dot. -/
structure Valid (name : String) : Prop where
  nonempty : components name.toList ≠ []
  relative : name.toList.head? ≠ some '/'
  noBackslash : '\\' ∉ name.toList
  below : ['.', '.'] ∉ components name.toList
  undotted : ∀ c ∈ (components name.toList).head?, c.head? ≠ some '.'

/-- A name is accepted iff it is valid, and becomes the path of its components. -/
theorem check_eq_ok_iff {name path : String} :
    check name = .ok path ↔ Valid name ∧ path = join (components name.toList) := by
  unfold check
  dsimp only
  cases hcomponents : components name.toList with
  | nil => exact ⟨(nomatch ·), fun ⟨hvalid, _⟩ => absurd hcomponents hvalid.nonempty⟩
  | cons first rest =>
    have hvalid : Valid name ↔ ¬ (name.toList.contains '\\' ∨ name.toList.head? = some '/' ∨
        (first :: rest).contains ['.', '.']) ∧ first.head? ≠ some '.' := by
      constructor
      · rintro ⟨-, hrelative, hslash, hbelow, hundotted⟩
        rw [hcomponents] at hbelow hundotted
        simp_all
      · rintro ⟨hgood, hundotted⟩
        constructor <;> simp_all
    dsimp only
    rw [hvalid]
    split
    · next hbad => exact ⟨(nomatch ·), fun h => absurd hbad h.1.1⟩
    · next hgood =>
      split
      · next hdot => exact ⟨(nomatch ·), fun h => absurd hdot h.1.2⟩
      · next hdot =>
        exact ⟨fun h => ⟨⟨hgood, hdot⟩, (Except.ok.inj h).symm⟩, fun h => h.2 ▸ rfl⟩

/-- A canonical name is accepted and stays as it is. -/
theorem check_canonical {name path : String} (h : check name = .ok path) :
    check path = .ok path := by
  obtain ⟨hvalid, rfl⟩ := check_eq_ok_iff.mp h
  have hcomponents := components_join hvalid.nonempty fun _ => isComponent_of_mem
  refine check_eq_ok_iff.mpr ⟨?_, by rw [hcomponents]⟩
  exact
    { nonempty := hcomponents.symm ▸ hvalid.nonempty
      relative := by
        -- the first character of the path is that of its first component
        obtain ⟨first, rest, hcs⟩ := List.exists_cons_of_ne_nil hvalid.nonempty
        have hfirst : IsComponent first := isComponent_of_mem (hcs ▸ List.mem_cons_self)
        obtain ⟨c, cs, rfl⟩ := List.exists_cons_of_ne_nil hfirst.nonempty
        have hc : c ≠ '/' := fun hc => hfirst.whole (hc ▸ List.mem_cons_self)
        rw [hcs]
        cases rest <;> simpa [join] using hc
      noBackslash := fun hmem => by
        rw [join, String.toList_ofList, mem_intercalate_iff (by decide)] at hmem
        obtain ⟨c, hc, hmem⟩ := hmem
        exact hvalid.noBackslash (mem_of_mem_components hc hmem)
      below := hcomponents.symm ▸ hvalid.below
      undotted := hcomponents.symm ▸ hvalid.undotted }

end FileName

end Playground
