import Playground.Proofs.Run.FileTree
import Playground.Proofs.Workspace.Normal

/-!
# Laid out files

When the files of a workspace can be laid out one after the other, and what the directory holds
then.

- `Holds`: what it is for a tree to hold some files and nothing else.
- `write_cases`: a tree that holds some files takes one more iff that one stands apart from them.
- `foldlM_write_cases`: so it is with any number of files.
- `ofFiles_lays_out`: the files of a workspace can be laid out iff they stand apart from each other.
- `ofFiles_file_below_file`: not all do that are accepted.
-/

namespace Playground

/-- Where a file is laid out. -/
def WorkspaceFile.path (f : WorkspaceFile) : List (List Char) :=
  FileName.components f.name.toList

namespace FileTree

variable {t : FileTree}

/-! ## Trees of files -/

/-- A tree of some files: at each of their paths stands the file, above them stand directories, and
nothing stands anywhere else. -/
structure Holds (t : FileTree) (laidOut : List WorkspaceFile) : Prop where
  files : t.files = laidOut.map fun f => (FileName.join f.path, f.text)
  file : ∀ p text, t.find? p = some (.file text) ↔ ∃ f ∈ laidOut, f.path = p ∧ f.text = text
  directory : ∀ p, t.find? p = some .directory ↔
    p = [] ∨ ∃ f ∈ laidOut, p <+: f.path ∧ p ≠ f.path

theorem holds_empty : empty.Holds [] where
  files := rfl
  file p text := by
    cases p <;> simp [find?, empty]
  directory p := by
    cases p <;> simp [find?, empty]

/-- Files of which neither would have to be a directory for the other one. -/
def Apart (f g : WorkspaceFile) : Prop :=
  ¬ f.path <+: g.path ∧ ¬ g.path <+: f.path

instance (f g : WorkspaceFile) : Decidable (Apart f g) :=
  inferInstanceAs (Decidable (_ ∧ _))

theorem Apart.symm {f g : WorkspaceFile} (h : Apart f g) : Apart g f :=
  ⟨h.2, h.1⟩

/-- What goes wrong where a file would have to be a directory, or a directory a file. -/
def IsConflict (e : FileError) : Prop :=
  e = .fileInTheWay ∨ e = .throughFile ∨ e = .isDirectory

/-- The directories of a file are what its path goes through. -/
theorem leads_dropLast_iff {path p : List (List Char)} (hne : path ≠ []) :
    Leads [] path.dropLast p ↔ p ≠ [] ∧ p <+: path ∧ p ≠ path := by
  have hpath : path.dropLast ++ [path.getLast hne] = path := List.dropLast_append_getLast hne
  have hprefix : p <+: path.dropLast ↔ p <+: path ∧ p ≠ path := by
    constructor
    · intro h
      refine ⟨h.trans (List.dropLast_prefix _), ?_⟩
      rintro rfl
      have hlength := h.length_le
      have hpos := List.length_pos_iff.mpr hne
      rw [List.length_dropLast] at hlength
      omega
    · rintro ⟨h, hp⟩
      rw [← hpath, List.prefix_concat_iff, hpath] at h
      exact h.resolve_left hp
  rw [← hprefix]
  constructor
  · rintro ⟨c, down, rfl, hdown⟩
    exact ⟨List.cons_ne_nil _ _, hdown⟩
  · rintro ⟨hp, hdown⟩
    obtain ⟨c, down, rfl⟩ := List.exists_cons_of_ne_nil hp
    exact ⟨c, down, rfl, hdown⟩

variable {laidOut : List WorkspaceFile} {f : WorkspaceFile}

theorem Holds.path_ne_nil (h : t.Holds laidOut) (hf : f ∈ laidOut) : f.path ≠ [] := by
  intro hnil
  have hfile := (h.file f.path f.text).mpr ⟨f, hf, rfl, rfl⟩
  rw [hnil, find?_nil] at hfile
  cases hfile

/-- Where nothing stands in the way, a tree with the directories of a file takes the file. -/
theorem Holds.set {t' : FileTree} (h : t.Holds laidOut)
    (hadds : t.Adds t' (Leads [] f.path.dropLast)) (hne : f.path ≠ [])
    (hnone : t'.find? f.path = none) :
    (t'.set f.path (.file f.text)).Holds (laidOut ++ [f]) where
  files := by
    rw [files_set_file hnone, hadds.files, h.files, List.map_append]
    rfl
  file p text := by
    have hold := (hadds.file p text).trans (h.file p text)
    simp only [List.mem_append, List.mem_singleton, or_and_right, exists_or, exists_eq_left]
    rw [← hold]
    by_cases hp : p = f.path
    · subst hp
      rw [find?_set_self hne, hnone]
      simp
    · rw [find?_set_of_ne hp]
      simp [Ne.symm hp]
  directory p := by
    have hold := hadds.directory p
    rw [h.directory, leads_dropLast_iff hne] at hold
    simp only [List.mem_append, List.mem_singleton, or_and_right, exists_or, exists_eq_left]
    by_cases hp : p = f.path
    · subst hp
      rw [hnone] at hold
      rw [find?_set_self hne]
      simpa using hold
    · rw [find?_set_of_ne hp, hold, or_assoc]
      -- the top is above every file
      by_cases hnil : p = []
      · simp [hnil]
      · simp [hnil]

/-- Once the directories of a new file are made, nothing stands in its place, or a directory that
another file is below. -/
theorem Holds.find?_made {t' : FileTree} (h : t.Holds laidOut)
    (hadds : t.Adds t' (Leads [] f.path.dropLast)) (hne : f.path ≠ [])
    (hnew : ∀ g ∈ laidOut, g.path ≠ f.path) :
    (t'.find? f.path = none ∧ ∀ g ∈ laidOut, ¬ f.path <+: g.path) ∨
      (t'.find? f.path = some .directory ∧ ∃ g ∈ laidOut, f.path <+: g.path) := by
  have hdirectory : t'.find? f.path = some .directory ↔ ∃ g ∈ laidOut, f.path <+: g.path := by
    rw [hadds.directory, h.directory, leads_dropLast_iff hne]
    constructor
    · rintro ((hnil | ⟨g, hg, hprefix, -⟩) | ⟨-, -, hself⟩)
      · exact absurd hnil hne
      · exact ⟨g, hg, hprefix⟩
      · exact absurd rfl hself
    · rintro ⟨g, hg, hprefix⟩
      exact .inl (.inr ⟨g, hg, hprefix, (hnew g hg).symm⟩)
  cases hfind : t'.find? f.path with
  | none =>
    refine .inl ⟨rfl, fun g hg hprefix => ?_⟩
    rw [hdirectory.mpr ⟨g, hg, hprefix⟩] at hfind
    cases hfind
  | some entry =>
    cases entry with
    | directory => exact .inr ⟨rfl, hdirectory.mp hfind⟩
    | file text =>
      rw [hadds.file, h.file] at hfind
      obtain ⟨g, hg, hpath, -⟩ := hfind
      exact absurd hpath (hnew g hg)

/-- A new file is laid out iff it stands apart from those that are there. -/
theorem write_cases (h : t.Holds laidOut) (hfits : Fits f.name) (hne : f.path ≠ [])
    (hnew : ∀ g ∈ laidOut, g.path ≠ f.path) :
    (∃ t', t.write f.name f.text = .ok t' ∧ t'.Holds (laidOut ++ [f]) ∧
        ∀ g ∈ laidOut, Apart g f) ∨
      ∃ e, IsConflict e ∧ t.write f.name f.text = .error e ∧ ∃ g ∈ laidOut, ¬ Apart g f := by
  have habove : ∀ c ∈ f.path.dropLast, byteSize c ≤ maxComponent := fun c hc =>
    hfits.component c ((List.dropLast_sublist _).subset hc)
  rcases makeDirectories_cases t [] habove with
    ⟨t', hmake, hadds, hfree⟩ | ⟨herror, p, text, hp, hfile⟩
  · rcases h.find?_made hadds hne hnew with ⟨hnone, hbelow⟩ | ⟨hdirectory, g, hg, hbelow⟩
    · refine .inl ⟨_, write_of_free hfits f.text hmake hnone, h.set hadds hne hnone, ?_⟩
      intro g hg
      refine ⟨fun hprefix => ?_, hbelow g hg⟩
      have hleads := (leads_dropLast_iff hne).mpr ⟨h.path_ne_nil hg, hprefix, hnew g hg⟩
      exact hfree g.path g.text hleads ((h.file _ _).mpr ⟨g, hg, rfl, rfl⟩)
    · exact .inr ⟨.isDirectory, .inr (.inr rfl), write_of_directory hfits f.text hmake hdirectory,
        g, hg, fun hapart => hapart.2 hbelow⟩
  · obtain ⟨g, hg, rfl, -⟩ := (h.file p text).mp hfile
    have hprefix := ((leads_dropLast_iff hne).mp hp).2.1
    have hblocked : ∃ g ∈ laidOut, ¬ Apart g f := ⟨g, hg, fun hapart => hapart.1 hprefix⟩
    rcases herror with herror | herror
    · exact .inr ⟨.fileInTheWay, .inl rfl, write_of_blocked hfits f.text herror, hblocked⟩
    · exact .inr ⟨.throughFile, .inr (.inl rfl), write_of_blocked hfits f.text herror, hblocked⟩

/-- Files are laid out one after the other iff they stand apart from each other and from those that
are there. -/
theorem foldlM_write_cases :
    ∀ {files laidOut : List WorkspaceFile} {t : FileTree}, t.Holds laidOut →
      laidOut.Pairwise Apart → (∀ f ∈ files, Fits f.name ∧ f.path ≠ []) →
      ((laidOut ++ files).map (·.path)).Nodup →
      (∃ t', files.foldlM (fun t f => t.write f.name f.text) t = .ok t' ∧
        t'.Holds (laidOut ++ files) ∧ (laidOut ++ files).Pairwise Apart) ∨
      ∃ e, IsConflict e ∧ files.foldlM (fun t f => t.write f.name f.text) t = .error e ∧
        ¬ (laidOut ++ files).Pairwise Apart
  | [], laidOut, t, h, hapart, _, _ => by
    rw [List.append_nil]
    exact .inl ⟨t, rfl, h, hapart⟩
  | f :: files, laidOut, t, h, hapart, hfits, hpaths => by
    obtain ⟨⟨hfit, hne⟩, hrest⟩ := List.forall_mem_cons.mp hfits
    have hnew : ∀ g ∈ laidOut, g.path ≠ f.path := by
      intro g hg
      rw [List.map_append, List.nodup_append] at hpaths
      exact hpaths.2.2 _ (List.mem_map_of_mem hg) _ (List.mem_map_of_mem List.mem_cons_self)
    rw [List.foldlM_cons]
    -- the induction is on the files that are left: each one moves to those that are laid out
    rcases write_cases h hfit hne hnew with
      ⟨t', hwrite, h', hapart_f⟩ | ⟨e, he, hwrite, g, hg, hconflict⟩
    · have hapart' : (laidOut ++ [f]).Pairwise Apart := by
        rw [List.pairwise_append]
        refine ⟨hapart, List.pairwise_singleton _ _, fun g hg f' hf' => ?_⟩
        rw [List.mem_singleton.mp hf']
        exact hapart_f g hg
      rw [List.append_cons] at hpaths ⊢
      rw [hwrite]
      exact foldlM_write_cases h' hapart' hrest hpaths
    · refine .inr ⟨e, he, by rw [hwrite]; rfl, fun hall => hconflict ?_⟩
      exact (List.pairwise_append.mp hall).2.2 g hg f List.mem_cons_self

/-- The files of a workspace are canonical: each has the name that its path spells. -/
theorem join_path_of_ofRequest {request : Request} {w : Workspace}
    (hw : Workspace.ofRequest request = .ok w) :
    ∀ f ∈ w.files, f.path ≠ [] ∧ FileName.join f.path = f.name := by
  intro f hf
  obtain ⟨source, -, hsource⟩ :=
    Checks.exists_mem_of_mapM (Workspace.ofRequest_eq_ok_iff.mp hw).files hf
  obtain ⟨name, hname, hfile⟩ := Checks.bind_eq_ok_iff.mp hsource
  cases hfile
  obtain ⟨hvalid, hjoin⟩ := FileName.check_eq_ok_iff.mp (FileName.check_canonical hname)
  exact ⟨hvalid.nonempty, hjoin.symm⟩

/-- The files of a workspace can be laid out, in whatever order they come, iff none of them would
have to be a directory for another one. Then the directory holds just the files, each under its own
name with its own text. -/
theorem ofFiles_lays_out {request : Request} {w : Workspace}
    (hw : Workspace.ofRequest request = .ok w) (hfits : ∀ f ∈ w.files, Fits f.name)
    {files : List WorkspaceFile} (hperm : files.Perm w.files) :
    ((∃ t, ofFiles files = .ok t) ↔ w.files.Pairwise Apart) ∧
      (∀ t, ofFiles files = .ok t →
        t.files = files.map (fun f => (f.name, f.text)) ∧ t.Holds files) ∧
      ∀ e, ofFiles files = .error e → IsConflict e := by
  have hcanonical := join_path_of_ofRequest hw
  -- two files with one path would have one name, since their names are canonical
  have hpaths : (([] ++ files).map WorkspaceFile.path).Nodup := by
    have hnames := (Workspace.ofRequest_eq_ok_iff.mp hw).names
    rw [List.nil_append, (hperm.map _).nodup_iff]
    refine List.Nodup.map_on (fun f hf g hg hpath => ?_) hnames.of_map
    refine List.inj_on_of_nodup_map hnames hf hg ?_
    rw [← (hcanonical f hf).2, ← (hcanonical g hg).2, hpath]
  have hready : ∀ f ∈ files, Fits f.name ∧ f.path ≠ [] := fun f hf =>
    ⟨hfits f (hperm.subset hf), (hcanonical f (hperm.subset hf)).1⟩
  have hpairwise : files.Pairwise Apart ↔ w.files.Pairwise Apart :=
    hperm.pairwise_iff Apart.symm
  rcases foldlM_write_cases holds_empty List.Pairwise.nil hready hpaths with
    ⟨t, hok, hholds, hapart⟩ | ⟨e, he, herror, hapart⟩
  · rw [List.nil_append] at hholds hapart
    have hofFiles : ofFiles files = .ok t := hok
    refine ⟨iff_of_true ⟨t, hofFiles⟩ (hpairwise.mp hapart), fun t' ht' => ?_, fun e he => ?_⟩
    · obtain rfl : t = t' := Except.ok.inj (hofFiles.symm.trans ht')
      refine ⟨?_, hholds⟩
      rw [hholds.files]
      refine List.map_congr_left fun f hf => ?_
      rw [(hcanonical f (hperm.subset hf)).2]
    · rw [hofFiles] at he
      cases he
  · rw [List.nil_append] at hapart
    have hofFiles : ofFiles files = .error e := herror
    refine ⟨iff_of_false ?_ fun h => hapart (hpairwise.mpr h), fun t ht => ?_, fun e' he' => ?_⟩
    · rintro ⟨t, ht⟩
      rw [hofFiles] at ht
      cases ht
    · rw [hofFiles] at ht
      cases ht
    · rw [hofFiles] at he'
      cases he'
      exact he

/-- Files in two directories, one of them in the other, listed by roundabout names. -/
theorem ofFiles_lays_out_nested :
    let request : Request :=
      { source := some "pass"
        files := some [⟨"./data//in/a.txt", "1"⟩, ⟨"data/b", "2"⟩, ⟨"data.b", ""⟩] }
    let w : Workspace :=
      ⟨"script", [⟨"", "pass", none⟩], [],
        [⟨"data/in/a.txt", "1"⟩, ⟨"data/b", "2"⟩, ⟨"data.b", ""⟩], none⟩
    Workspace.ofRequest request = .ok w ∧ (∀ f ∈ w.files, Fits f.name) ∧
      w.files.reverse.Perm w.files ∧ w.files.Pairwise Apart ∧
      ∃ t, ofFiles w.files.reverse = .ok t ∧
        t.files = [("data.b", ""), ("data/b", "2"), ("data/in/a.txt", "1")] := by
  intro request w
  have hw : Workspace.ofRequest request = .ok w := by decide
  have hfits : ∀ f ∈ w.files, Fits f.name := by decide
  have hperm : w.files.reverse.Perm w.files := List.reverse_perm _
  have hapart : w.files.Pairwise Apart := by decide
  obtain ⟨hiff, hholds, -⟩ := ofFiles_lays_out hw hfits hperm
  obtain ⟨t, ht⟩ := hiff.mpr hapart
  exact ⟨hw, hfits, hperm, hapart, t, ht, (hholds t ht).1⟩

/-- A request with a file and another one below it is accepted, and its files cannot be laid out
in either order. -/
theorem ofFiles_file_below_file :
    let request : Request := { source := some "pass", files := some [⟨"a", "1"⟩, ⟨"a/b", "2"⟩] }
    let w : Workspace :=
      ⟨"script", [⟨"", "pass", none⟩], [], [⟨"a", "1"⟩, ⟨"a/b", "2"⟩], none⟩
    Workspace.ofRequest request = .ok w ∧ (∀ f ∈ w.files, Fits f.name) ∧
      ofFiles w.files = .error .fileInTheWay ∧ ofFiles w.files.reverse = .error .isDirectory := by
  decide

end FileTree

end Playground
