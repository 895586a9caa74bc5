import Playground.Proofs.Workspace.FileName
import Playground.Run.FileTree

/-!
# The theory of file trees

What laying out a file does to a directory, told by what stands at each path.

- `find?_set_self` and `find?_set_of_ne`: an entry changes what stands at its own path only.
- `makeDirectories_cases`: directories are made unless a file stands on the way to them, and then
  nothing else changes (`Adds`).
- `write_of_blocked`, `write_of_directory` and `write_of_free`: within the limits of the file
  system a file is laid out unless its directories cannot be made or a directory stands in its
  place.
-/

namespace Playground

namespace FileTree

/-! ## Entries -/

variable {t : FileTree}

theorem find?_nil (t : FileTree) : t.find? [] = some .directory := rfl

theorem find?_of_ne_nil {path : List (List Char)} (h : path ≠ []) (t : FileTree) :
    t.find? path = (t.entries.find? fun e => e.1 == path).map (·.2) := by
  cases path with
  | nil => exact absurd rfl h
  | cons c rest => rfl

@[simp] theorem find?_set_self {path : List (List Char)} (h : path ≠ []) (t : FileTree)
    (entry : FileEntry) : (t.set path entry).find? path = some entry := by
  have hgone : (t.entries.filter fun e => e.1 != path).find? (fun e => e.1 == path) = none := by
    rw [List.find?_eq_none]
    intro e he
    have hne := List.of_mem_filter he
    simpa using hne
  rw [find?_of_ne_nil h, set, List.find?_append, hgone]
  simp

theorem find?_set_of_ne {path other : List (List Char)} (h : other ≠ path) (t : FileTree)
    (entry : FileEntry) : (t.set path entry).find? other = t.find? other := by
  cases other with
  | nil => rfl
  | cons c rest =>
    have hrest : (t.entries.filter fun e => e.1 != path).find? (fun e => e.1 == c :: rest) =
        t.entries.find? fun e => e.1 == c :: rest := by
      rw [List.find?_filter]
      congr 1
      funext e
      by_cases he : e.1 = c :: rest
      · simp [he, h]
      · simp [he]
    have hne : c :: rest ≠ [] := List.cons_ne_nil _ _
    have hlast : [(path, entry)].find? (fun e => e.1 == c :: rest) = none := by
      simpa using Ne.symm h
    rw [find?_of_ne_nil hne, find?_of_ne_nil hne, set, List.find?_append, hrest, hlast,
      Option.or_none]

/-- What is put where nothing stands comes after all that is there. -/
theorem entries_set {path : List (List Char)} (h : t.find? path = none) (entry : FileEntry) :
    (t.set path entry).entries = t.entries ++ [(path, entry)] := by
  have hne : path ≠ [] := by
    rintro rfl
    cases h
  rw [find?_of_ne_nil hne, Option.map_eq_none_iff, List.find?_eq_none] at h
  have hall : (t.entries.filter fun e => e.1 != path) = t.entries := by
    rw [List.filter_eq_self]
    intro e he
    simpa using h e he
  rw [set, hall]

theorem files_set_directory {path : List (List Char)} (h : t.find? path = none) :
    (t.set path .directory).files = t.files := by
  rw [files, entries_set h, List.filterMap_append]
  exact List.append_nil _

theorem files_set_file {path : List (List Char)} (h : t.find? path = none) (text : String) :
    (t.set path (.file text)).files = t.files ++ [(FileName.join path, text)] := by
  rw [files, entries_set h, List.filterMap_append]
  rfl

/-! ## Directories -/

/-- The paths that lead from a directory down to what is below it, that one included. -/
def Leads (above rest p : List (List Char)) : Prop :=
  ∃ c down, p = above ++ c :: down ∧ c :: down <+: rest

theorem leads_cons_iff {above rest p : List (List Char)} {c : List Char} :
    Leads above (c :: rest) p ↔ p = above ++ [c] ∨ Leads (above ++ [c]) rest p := by
  constructor
  · rintro ⟨d, down, rfl, hprefix⟩
    obtain ⟨rfl, hdown⟩ := List.cons_prefix_cons.mp hprefix
    cases down with
    | nil => exact .inl rfl
    | cons e down => exact .inr ⟨e, down, by simp, hdown⟩
  · rintro (rfl | ⟨d, down, rfl, hdown⟩)
    · exact ⟨c, [], rfl, by simp⟩
    · exact ⟨c, d :: down, by simp, List.cons_prefix_cons.mpr ⟨rfl, hdown⟩⟩

/-- A tree with some more directories. -/
structure Adds (t t' : FileTree) (made : List (List Char) → Prop) : Prop where
  file : ∀ p text, t'.find? p = some (.file text) ↔ t.find? p = some (.file text)
  directory : ∀ p, t'.find? p = some .directory ↔ t.find? p = some .directory ∨ made p
  files : t'.files = t.files

/-- A directory that is made where nothing stands. -/
theorem adds_set {path : List (List Char)} (h : t.find? path = none) :
    t.Adds (t.set path .directory) (· = path) where
  file p text := by
    by_cases hp : p = path
    · subst hp
      have hne : p ≠ [] := by
        rintro rfl
        cases h
      rw [find?_set_self hne, h]
      simp
    · rw [find?_set_of_ne hp]
  directory p := by
    by_cases hp : p = path
    · subst hp
      have hne : p ≠ [] := by
        rintro rfl
        cases h
      simp [find?_set_self hne]
    · rw [find?_set_of_ne hp]
      simp [hp]
  files := files_set_directory h

/-- The first of some directories is there, or made, unless a file stands in its place. -/
theorem makeDirectories_cons {c : List Char} (hc : byteSize c ≤ maxComponent) (t : FileTree)
    (above rest : List (List Char)) :
    (∃ t', t.makeDirectories above (c :: rest) = t'.makeDirectories (above ++ [c]) rest ∧
      t.Adds t' (· = above ++ [c]) ∧ ∀ text, t.find? (above ++ [c]) ≠ some (.file text)) ∨
    ((t.makeDirectories above (c :: rest) = .error .fileInTheWay ∨
        t.makeDirectories above (c :: rest) = .error .throughFile) ∧
      ∃ text, t.find? (above ++ [c]) = some (.file text)) := by
  rw [makeDirectories, if_neg (by omega)]
  dsimp only
  cases hfind : t.find? (above ++ [c]) with
  | none => exact .inl ⟨_, rfl, adds_set hfind, by simp⟩
  | some entry =>
    cases entry with
    | directory =>
      refine .inl ⟨t, rfl, ⟨fun _ _ => Iff.rfl, fun p => ?_, rfl⟩, by simp⟩
      rw [iff_self_or]
      rintro rfl
      exact hfind
    | file text =>
      refine .inr ⟨?_, text, rfl⟩
      dsimp only
      cases rest.isEmpty with
      | true => exact .inl rfl
      | false => exact .inr rfl

/-- Directories are made unless a file stands on the way down to one of them. -/
theorem makeDirectories_cases :
    ∀ {rest : List (List Char)} (t : FileTree) (above : List (List Char)),
      (∀ c ∈ rest, byteSize c ≤ maxComponent) →
      (∃ t', t.makeDirectories above rest = .ok t' ∧ t.Adds t' (Leads above rest) ∧
        ∀ p text, Leads above rest p → t.find? p ≠ some (.file text)) ∨
      ((t.makeDirectories above rest = .error .fileInTheWay ∨
          t.makeDirectories above rest = .error .throughFile) ∧
        ∃ p text, Leads above rest p ∧ t.find? p = some (.file text))
  | [], t, above, _ => by
    have hnone : ∀ p, ¬ Leads above [] p := by
      rintro p ⟨c, down, -, hdown⟩
      simp at hdown
    exact .inl ⟨t, rfl, ⟨fun _ _ => Iff.rfl, fun p => by simp [hnone p], rfl⟩,
      fun p _ hp => absurd hp (hnone p)⟩
  | c :: rest, t, above, hfits => by
    obtain ⟨hc, hrest⟩ := List.forall_mem_cons.mp hfits
    rcases makeDirectories_cons hc t above rest with
      ⟨t₁, hstep, hfirst, hfree₁⟩ | ⟨herror, text, hfile⟩
    · rw [hstep]
      -- what the first step adds is a directory, so it hides no file from the steps that follow
      rcases makeDirectories_cases t₁ (above ++ [c]) hrest with
        ⟨t', hmake, hadds, hfree⟩ | ⟨herror, p, text, hp, hfile⟩
      · refine .inl ⟨t', hmake, ⟨fun p text => ?_, fun p => ?_, ?_⟩, fun p text hp => ?_⟩
        · rw [hadds.file, hfirst.file]
        · rw [hadds.directory, hfirst.directory, leads_cons_iff, or_assoc]
        · rw [hadds.files, hfirst.files]
        · rcases leads_cons_iff.mp hp with rfl | hp
          · exact hfree₁ text
          · rw [Ne, ← hfirst.file]
            exact hfree p text hp
      · exact .inr ⟨herror, p, text, leads_cons_iff.mpr (.inr hp),
          (hfirst.file p text).mp hfile⟩
    · exact .inr ⟨herror, _, text, leads_cons_iff.mpr (.inl rfl), hfile⟩

/-! ## Limits -/

/-- A file name that the file system can take. -/
structure Fits (name : String) : Prop where
  noNull : '\x00' ∉ name.toList
  component : ∀ c ∈ FileName.components name.toList, byteSize c ≤ maxComponent
  path : byteSize (['/'].intercalate (FileName.components name.toList)) ≤ maxPath

instance (name : String) : Decidable (Fits name) :=
  decidable_of_iff
    ('\x00' ∉ name.toList ∧
      (∀ c ∈ FileName.components name.toList, byteSize c ≤ maxComponent) ∧
      byteSize (['/'].intercalate (FileName.components name.toList)) ≤ maxPath)
    ⟨fun ⟨h, hcomponent, hpath⟩ => ⟨h, hcomponent, hpath⟩, fun h => ⟨h.1, h.2, h.3⟩⟩

theorem byteSize_mono {p q : List Char} (h : p <+: q) : byteSize p ≤ byteSize q := by
  obtain ⟨rest, rfl⟩ := h
  rw [byteSize, byteSize, String.ofList_append, String.utf8ByteSize_append]
  exact Nat.le_add_right _ _

/-- The path to the directory of a file is how the path to the file begins. -/
theorem isPrefix_intercalate_dropLast :
    ∀ cs : List (List Char), ['/'].intercalate cs.dropLast <+: ['/'].intercalate cs
  | [] => List.prefix_rfl
  | [c] => List.nil_prefix
  | c :: d :: rest => by
    have ih := isPrefix_intercalate_dropLast (d :: rest)
    rw [List.dropLast_cons_cons, List.intercalate_cons_cons]
    cases hdrop : (d :: rest).dropLast with
    | nil =>
      rw [List.intercalate_singleton, List.append_assoc]
      exact List.prefix_append _ _
    | cons d' rest' =>
      rw [hdrop] at ih
      rw [List.intercalate_cons_cons]
      exact List.prefix_append_right_inj _ |>.mpr ih

/-- Laying out a file that the file system can take. -/
theorem write_of_fits {name : String} (h : Fits name) (t : FileTree) (text : String) :
    t.write name text =
      (t.makeDirectories [] (FileName.components name.toList).dropLast).bind fun t =>
        match t.find? (FileName.components name.toList) with
        | some .directory => .error .isDirectory
        | _ => .ok (t.set (FileName.components name.toList) (.file text)) := by
  have hnull :
      ((FileName.components name.toList).dropLast.any fun c => c.contains '\x00') = false := by
    rw [List.any_eq_false]
    intro c hc hmem
    have hcs := (List.dropLast_sublist _).subset hc
    exact h.noNull (FileName.mem_of_mem_components hcs (List.contains_iff_mem.mp hmem))
  have habove :
      ¬ byteSize (['/'].intercalate (FileName.components name.toList).dropLast) > maxPath :=
    Nat.not_lt.mpr (Nat.le_trans (byteSize_mono (isPrefix_intercalate_dropLast _)) h.path)
  have hlast : ¬ byteSize ((FileName.components name.toList).getLastD []) > maxComponent := by
    refine Nat.not_lt.mpr ?_
    have hcons : (FileName.components name.toList).getLastD [] ∈
        [] :: FileName.components name.toList := List.getLastD_mem_cons
    rcases List.mem_cons.mp hcons with hnil | hmem
    · rw [hnil]
      exact Nat.zero_le _
    · exact h.component _ hmem
  have hname : (name.toList.contains '\x00') = false := by
    simpa using h.noNull
  have hpath : ¬ byteSize (['/'].intercalate (FileName.components name.toList)) > maxPath :=
    Nat.not_lt.mpr h.path
  unfold write
  dsimp only
  rw [hnull, hname, if_neg habove, decide_eq_false hlast, decide_eq_false hpath]
  simp only [Bool.or_false, Bool.false_eq_true, if_false]
  rfl

variable {name : String} {t' : FileTree}

/-- A file is not laid out if its directories cannot be made. -/
theorem write_of_blocked (h : Fits name) (text : String) {e : FileError}
    (hmake : t.makeDirectories [] (FileName.components name.toList).dropLast = .error e) :
    t.write name text = .error e := by
  rw [write_of_fits h, hmake]
  rfl

/-- A file is not laid out in the place of a directory. -/
theorem write_of_directory (h : Fits name) (text : String)
    (hmake : t.makeDirectories [] (FileName.components name.toList).dropLast = .ok t')
    (hfind : t'.find? (FileName.components name.toList) = some .directory) :
    t.write name text = .error .isDirectory := by
  rw [write_of_fits h, hmake]
  simp only [Except.bind, hfind]

/-- A file is laid out where nothing stands. -/
theorem write_of_free (h : Fits name) (text : String)
    (hmake : t.makeDirectories [] (FileName.components name.toList).dropLast = .ok t')
    (hfind : t'.find? (FileName.components name.toList) = none) :
    t.write name text = .ok (t'.set (FileName.components name.toList) (.file text)) := by
  rw [write_of_fits h, hmake]
  simp only [Except.bind, hfind]

end FileTree

end Playground
