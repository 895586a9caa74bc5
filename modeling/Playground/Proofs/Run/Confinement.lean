import Playground.Proofs.Run.FileTree
import Playground.Proofs.Workspace.Acceptance

/-!
# Confined files

Where the files of a request end up. A file name is followed piece by piece from the directory of
the run, as the file system follows it, and not by its components: that the two agree on every
accepted name is what keeps files where they belong.

- `FileName.place`: where a path leads to, and `Valid.place_eq`: for an accepted name, below the
  directory along its components.
- `FileName.Confined`: a place that is neither outside the directory nor one of the host's.
- `check_eq_check_iff`: two names become the same text iff they have the same components, which is
  iff they lead to the same place.
- `Workspace.ofRequest_eq_repeatedFileName_iff`: a request is refused for repeated file names iff
  two of them lead to one place.
- `FileTree.Undotted`: nothing is ever laid out where the files of the host are.
- `Workspace.ofRequest_confines`: all this of the files of a request.
-/

namespace Playground

namespace FileName

variable {name name' path path' : String} {directory : List (List Char)}

/-! ## Places -/

/-- Where a piece of a path leads to: nothing and a single dot lead nowhere, two dots lead up, and
anything else leads down. The top of the file system is above itself. -/
def go (place : List (List Char)) (piece : List Char) : List (List Char) :=
  if piece = [] ∨ piece = ['.'] then place
  else if piece = ['.', '.'] then place.dropLast
  else place ++ [piece]

/-- The place that a path leads to from a directory, or from the top if it begins with a slash.
Places are told by the names on the way down from the top. -/
def place (directory : List (List Char)) (path : List Char) : List (List Char) :=
  (Text.pieces '/' path).foldl go (if path.head? = some '/' then [] else directory)

/-- Without two dots among the pieces, the way only leads down, along the components. -/
theorem foldl_go :
    ∀ {pieces : List (List Char)} (start : List (List Char)), ['.', '.'] ∉ pieces →
      pieces.foldl go start = start ++ pieces.filter fun c => c ≠ [] ∧ c ≠ ['.']
  | [], start, _ => (List.append_nil start).symm
  | piece :: pieces, start, hup => by
    obtain ⟨hpiece, hpieces⟩ := not_or.mp (List.mem_cons.not.mp hup)
    rw [List.foldl_cons, foldl_go _ hpieces]
    by_cases hstay : piece = [] ∨ piece = ['.']
    · have hproper : ¬ (piece ≠ [] ∧ piece ≠ ['.']) := by
        rwa [← not_or, not_not]
      rw [go, if_pos hstay, List.filter_cons_of_neg (by simpa using hproper)]
    · have hproper : piece ≠ [] ∧ piece ≠ ['.'] := not_or.mp hstay
      rw [go, if_neg hstay, if_neg (Ne.symm hpiece),
        List.filter_cons_of_pos (by simpa using hproper), List.append_assoc,
        List.singleton_append]

/-- An accepted name leads down from the directory, along its components. -/
theorem Valid.place_eq (h : Valid name) (directory : List (List Char)) :
    place directory name.toList = directory ++ components name.toList := by
  have hup : ['.', '.'] ∉ Text.pieces '/' name.toList := by
    intro hmem
    exact h.below (List.mem_filter.mpr ⟨hmem, by decide⟩)
  rw [place, if_neg h.relative, foldl_go _ hup, components]

/-! ## Canonical names -/

/-- A name that is not valid is refused. -/
theorem check_of_not_valid (h : ¬ Valid name) :
    check name = .error (.badFileName name) ∨ check name = .error (.dottedFileName name) := by
  cases hcheck : check name with
  | ok path => exact absurd (check_eq_ok_iff.mp hcheck).1 h
  | error e =>
    rcases check_eq_error hcheck with rfl | rfl
    · exact .inl rfl
    · exact .inr rfl

/-- A canonical name leads to the same place as the name that it comes from. -/
theorem place_of_check (h : check name = .ok path) (directory : List (List Char)) :
    place directory path.toList = place directory name.toList := by
  obtain ⟨hvalid, hjoin⟩ := check_eq_ok_iff.mp h
  have hvalid' := (check_eq_ok_iff.mp (check_canonical h)).1
  have hcomponents : components path.toList = components name.toList := by
    rw [hjoin]
    exact components_join hvalid.nonempty fun _ => isComponent_of_mem
  rw [hvalid'.place_eq, hvalid.place_eq, hcomponents]

/-- Two names become the same text iff they have the same components. -/
theorem check_eq_check_iff (h : check name = .ok path) (h' : check name' = .ok path') :
    path = path' ↔ components name.toList = components name'.toList := by
  obtain ⟨hvalid, rfl⟩ := check_eq_ok_iff.mp h
  obtain ⟨hvalid', rfl⟩ := check_eq_ok_iff.mp h'
  constructor
  · intro hjoin
    have hback := components_join hvalid.nonempty fun _ => isComponent_of_mem
    rw [hjoin, components_join hvalid'.nonempty fun _ => isComponent_of_mem] at hback
    exact hback.symm
  · exact congrArg join

/-- Two accepted names lead to the same place iff they have the same components. -/
theorem Valid.place_eq_place_iff (h : Valid name) (h' : Valid name') :
    place directory name.toList = place directory name'.toList ↔
      components name.toList = components name'.toList := by
  rw [h.place_eq, h'.place_eq, List.append_right_inj]

/-! ## Confined places -/

/-- The files that the host of a run keeps in its directory. -/
def hostFiles : List (List Char) :=
  [".program.bin".toList, ".manifest.json".toList]

/-- A place strictly inside a directory that neither is a file of the host nor below one. -/
structure Confined (directory place : List (List Char)) : Prop where
  inside : directory <+: place
  strict : place ≠ directory
  apart : ∀ host ∈ hostFiles, ¬ directory ++ [host] <+: place

/-- The files of the host begin with a dot. -/
theorem dotted_of_mem_hostFiles {host : List Char} (h : host ∈ hostFiles) :
    host.head? = some '.' := by
  revert host
  decide

theorem Valid.confined (h : Valid name) (directory : List (List Char)) :
    Confined directory (place directory name.toList) where
  inside := by
    rw [h.place_eq]
    exact List.prefix_append _ _
  strict := by
    rw [h.place_eq, Ne, List.append_right_eq_self]
    exact h.nonempty
  apart host hhost hprefix := by
    rw [h.place_eq, List.prefix_append_right_inj] at hprefix
    obtain ⟨below, hbelow⟩ := hprefix
    have hfirst : host ∈ (components name.toList).head? := by
      rw [← hbelow]
      rfl
    exact h.undotted host hfirst (dotted_of_mem_hostFiles hhost)

end FileName

/-! ## Repeated names -/

/-- A request that gets as far as having the names of its files compared. -/
structure Request.ComparesNames (r : Request) : Prop where
  buffers : r.buffers ≠ some []
  source : r.buffers ≠ none ∨ r.buffer ≠ none ∨ r.source ≠ none
  ids : (r.chosen.map (·.id)).Nodup
  active : ∀ id, r.activeId = some id → id ∈ r.chosen.map (·.id)
  files : ∀ f ∈ r.files.getD [], FileName.Valid f.name

/-- The places that the files of a request lead to. -/
def Request.places (r : Request) (directory : List (List Char)) : List (List (List Char)) :=
  (r.files.getD []).map fun f => FileName.place directory f.name.toList

namespace Workspace

variable {r : Request}

/-- The files of a request are accepted iff their names are. -/
theorem mapM_requestFile_iff {requested : List FileRequest} :
    (∃ files, requested.mapM requestFile = .ok files) ↔
      ∀ f ∈ requested, FileName.Valid f.name := by
  constructor
  · rintro ⟨files, hfiles⟩ f hf
    obtain ⟨file, hfile⟩ := Checks.exists_of_forall₂ (Checks.mapM_eq_ok_iff.mp hfiles) f hf
    obtain ⟨name, hname, -⟩ := Checks.bind_eq_ok_iff.mp hfile
    exact (FileName.check_eq_ok_iff.mp hname).1
  · intro hvalid
    have hfile : ∀ f ∈ requested, ∃ file, requestFile f = .ok file ∧ True := by
      intro f hf
      have hname := FileName.check_eq_ok_iff.mpr ⟨hvalid f hf, rfl⟩
      exact ⟨_, Checks.bind_eq_ok_iff.mpr ⟨_, hname, rfl⟩, trivial⟩
    obtain ⟨files, hfiles, -⟩ := Checks.exists_mapM hfile
    exact ⟨files, hfiles⟩

theorem requestBuffers_eq_chosen (hbuffers : r.buffers ≠ some [])
    (hsource : r.buffers ≠ none ∨ r.buffer ≠ none ∨ r.source ≠ none) :
    requestBuffers r = .ok r.chosen := by
  cases h : requestBuffers r with
  | ok bs => rw [(requestBuffers_eq_ok h).1]
  | error e =>
    unfold requestBuffers at h
    split at h <;> simp_all

/-- No other check of a request refuses it for repeated file names. -/
theorem ofRequest_eq_repeatedFileName_steps :
    ofRequest r = .error .repeatedFileName ↔ ∃ buffers, requestBuffers r = .ok buffers ∧
      (buffers.map (·.id)).Nodup ∧
      (∀ id, r.activeId = some id → id ∈ buffers.map (·.id)) ∧
      ∃ files, (r.files.getD []).mapM requestFile = .ok files ∧
        ¬ (files.map (·.name)).Nodup := by
  have hbuffers : requestBuffers r ≠ .error .repeatedFileName := by
    unfold requestBuffers
    split <;> simp
  have hfiles : (r.files.getD []).mapM requestFile ≠ .error .repeatedFileName := by
    intro h
    obtain ⟨f, -, hfile⟩ := Checks.exists_mem_of_mapM_error h
    rcases Checks.bind_eq_error_iff.mp hfile with hcheck | ⟨name, -, hname⟩
    · rcases FileName.check_eq_error hcheck with h | h
      · cases h
      · cases h
    · cases hname
  have husings : (r.usings.getD []).mapM Using.statement ≠ .error .repeatedFileName := by
    intro h
    obtain ⟨u, -, hu⟩ := Checks.exists_mem_of_mapM_error h
    rcases Using.statement_cases u with ⟨-, line, hline, -⟩ | ⟨-, hrefused⟩
    · rw [hline] at hu
      cases hu
    · rw [hrefused] at hu
      cases hu
  -- the steps are nested behind the question whether there is an active buffer
  unfold ofRequest
  cases r.activeId with
  | none =>
    simp only [Checks.bind_eq_error_iff, Checks.guard_eq_error_iff, distinct_eq_true_iff]
    simp only [pure, Except.pure, reduceCtorEq, and_false, exists_false, or_false, false_or,
      hbuffers, hfiles, husings]
    grind
  | some id =>
    simp only [Checks.bind_eq_error_iff, Checks.guard_eq_error_iff, distinct_eq_true_iff]
    simp only [pure, Except.pure, reduceCtorEq, and_false, exists_false, or_false, false_or,
      hbuffers, hfiles, husings]
    grind

/-- The names of the files of a request differ iff the places do that they lead to. -/
theorem nodup_names_iff {names : List String} (h : r.FileNames names)
    (directory : List (List Char)) : names.Nodup ↔ (r.places directory).Nodup := by
  have hcheck : ∀ f ∈ r.files.getD [], FileName.check f.name =
      .ok (FileName.join (FileName.components f.name.toList)) := by
    intro f hf
    obtain ⟨name, hname⟩ := Checks.exists_of_forall₂ h f hf
    rw [hname, (FileName.check_eq_ok_iff.mp hname).2]
  have hnames : names = (r.files.getD []).map fun f =>
      FileName.join (FileName.components f.name.toList) := by
    refine h.unique ?_
    rw [Request.FileNames, List.forall₂_map_right_iff, List.forall₂_same]
    exact hcheck
  rw [hnames, Request.places, List.Nodup, List.Nodup, List.pairwise_map, List.pairwise_map]
  refine List.Pairwise.iff_of_mem fun {f g} hf hg => not_congr ?_
  have hvalid := (FileName.check_eq_ok_iff.mp (hcheck f hf)).1
  have hvalid' := (FileName.check_eq_ok_iff.mp (hcheck g hg)).1
  rw [FileName.check_eq_check_iff (hcheck f hf) (hcheck g hg), hvalid.place_eq_place_iff hvalid']

/-- The names of its files are what a request is refused for iff they are compared, and two of them
lead to one place. -/
theorem ofRequest_eq_repeatedFileName_iff (r : Request) (directory : List (List Char)) :
    ofRequest r = .error .repeatedFileName ↔
      r.ComparesNames ∧ ¬ (r.places directory).Nodup := by
  rw [ofRequest_eq_repeatedFileName_steps]
  constructor
  · rintro ⟨buffers, hbuffers, hids, hactive, files, hfiles, hrepeated⟩
    obtain ⟨rfl, hne, hsource⟩ := requestBuffers_eq_ok hbuffers
    have hnodup := nodup_names_iff (.of_mapM hfiles) directory
    exact ⟨⟨hne, hsource, hids, hactive, mapM_requestFile_iff.mp ⟨files, hfiles⟩⟩,
      hnodup.not.mp hrepeated⟩
  · rintro ⟨hr, hrepeated⟩
    obtain ⟨files, hfiles⟩ := mapM_requestFile_iff.mpr hr.files
    have hnodup := nodup_names_iff (.of_mapM hfiles) directory
    have hbuffers := requestBuffers_eq_chosen hr.buffers hr.source
    exact ⟨r.chosen, hbuffers, hr.ids, hr.active, files, hfiles, hnodup.not.mpr hrepeated⟩

end Workspace

namespace FileTree

variable {t t' : FileTree}

/-! ## Laid out files -/

/-- Whether the first component of a path begins with a dot. -/
def IsDotted (path : List (List Char)) : Prop :=
  ∃ c ∈ path.head?, c.head? = some '.'

/-- A tree with nothing at such paths. -/
def Undotted (t : FileTree) : Prop :=
  ∀ path, IsDotted path → t.find? path = none

/-- What a path is a part of begins as it does. -/
theorem IsDotted.mono {p q : List (List Char)} (h : IsDotted p) (hpq : p <+: q) : IsDotted q := by
  obtain ⟨c, hc, hdot⟩ := h
  obtain ⟨rest, rfl⟩ := hpq
  exact ⟨c, List.mem_head?_append_of_mem_head? hc, hdot⟩

theorem undotted_empty : empty.Undotted := by
  rintro path ⟨c, hc, -⟩
  cases path with
  | nil => cases hc
  | cons first rest => rfl

/-- An entry at another path leaves it so. -/
theorem Undotted.set (h : t.Undotted) {path : List (List Char)} (hpath : ¬ IsDotted path)
    (entry : FileEntry) : (t.set path entry).Undotted := by
  intro other hother
  have hne : other ≠ path := by
    rintro rfl
    exact hpath hother
  rw [find?_set_of_ne hne]
  exact h other hother

/-- So do the directories above other paths. -/
theorem Undotted.makeDirectories :
    ∀ {rest above : List (List Char)} {t t' : FileTree}, t.Undotted → ¬ IsDotted (above ++ rest) →
      t.makeDirectories above rest = .ok t' → t'.Undotted
  | [], above, t, t', h, _, hmake => Except.ok.inj hmake ▸ h
  | c :: rest, above, t, t', h, hpath, hmake => by
    have hrest : ¬ IsDotted ((above ++ [c]) ++ rest) := by
      rwa [List.append_assoc, List.singleton_append]
    have habove : ¬ IsDotted (above ++ [c]) := fun hdot =>
      hrest (hdot.mono (List.prefix_append _ _))
    rw [FileTree.makeDirectories] at hmake
    split at hmake
    · cases hmake
    · dsimp only at hmake
      split at hmake
      · cases hmake
      · exact h.makeDirectories hrest hmake
      · exact (h.set habove .directory).makeDirectories hrest hmake

/-- What becomes of a tree when a file is laid out in it. -/
theorem write_eq_ok {name text : String} (h : t.write name text = .ok t') :
    ∃ made, t.makeDirectories [] (FileName.components name.toList).dropLast = .ok made ∧
      t' = made.set (FileName.components name.toList) (.file text) := by
  unfold write at h
  dsimp only at h
  split at h
  · cases h
  · split at h
    · cases h
    · obtain ⟨made, hmade, h⟩ := Checks.bind_eq_ok_iff.mp h
      refine ⟨made, hmade, ?_⟩
      split at h
      · cases h
      · split at h
        · cases h
        · split at h
          · cases h
          · exact (Except.ok.inj h).symm

/-- A file with an accepted name leaves it so. -/
theorem Undotted.write (h : t.Undotted) {name text : String} (hname : FileName.Valid name)
    (hwrite : t.write name text = .ok t') : t'.Undotted := by
  have hpath : ¬ IsDotted (FileName.components name.toList) := by
    rintro ⟨c, hc, hdot⟩
    exact hname.undotted c hc hdot
  have habove : ¬ IsDotted ([] ++ (FileName.components name.toList).dropLast) := fun hdot =>
    hpath (hdot.mono (List.dropLast_prefix _))
  obtain ⟨made, hmade, rfl⟩ := write_eq_ok hwrite
  exact (h.makeDirectories habove hmade).set hpath _

/-- So do any number of them. -/
theorem Undotted.foldlM_write :
    ∀ {files : List WorkspaceFile} {t t' : FileTree}, t.Undotted →
      (∀ f ∈ files, FileName.Valid f.name) →
      files.foldlM (fun t f => t.write f.name f.text) t = .ok t' → t'.Undotted
  | [], t, t', h, _, hrun => Except.ok.inj hrun ▸ h
  | f :: files, t, t', h, hnames, hrun => by
    obtain ⟨hname, hrest⟩ := List.forall_mem_cons.mp hnames
    rw [List.foldlM_cons] at hrun
    obtain ⟨t₁, hwrite, hrun⟩ := Checks.bind_eq_ok_iff.mp hrun
    exact (h.write hname hwrite).foldlM_write hrest hrun

end FileTree

namespace Workspace

/-! ## Confined files -/

variable {r : Request} {w : Workspace}

/-- The files of a workspace have the accepted names of those of its request. -/
theorem exists_name_of_ofRequest (h : ofRequest r = .ok w) {f : WorkspaceFile} (hf : f ∈ w.files) :
    ∃ requested ∈ r.files.getD [], FileName.check requested.name = .ok f.name := by
  obtain ⟨requested, hmem, hfile⟩ := Checks.exists_mem_of_mapM (ofRequest_eq_ok_iff.mp h).files hf
  obtain ⟨name, hname, hfile⟩ := Checks.bind_eq_ok_iff.mp hfile
  cases hfile
  exact ⟨requested, hmem, hname⟩

/-- They lead where the names in the request lead. -/
theorem map_place_of_ofRequest (h : ofRequest r = .ok w) (directory : List (List Char)) :
    w.files.map (fun f => FileName.place directory f.name.toList) = r.places directory := by
  have hnames := Request.FileNames.of_mapM (ofRequest_eq_ok_iff.mp h).files
  rw [Request.FileNames, List.forall₂_map_right_iff] at hnames
  rw [Request.places, eq_comm, ← List.forall₂_eq_eq_eq, List.forall₂_map_left_iff,
    List.forall₂_map_right_iff]
  exact hnames.imp fun _ _ hname => (FileName.place_of_check hname directory).symm

/-- A file name is accepted iff it is valid, and becomes the path of its components; any other is
refused. Names become the same text iff they have the same components, which is iff they lead to the
same place, and for two that do a request is refused. The files of an accepted request are where it
says, strictly inside the directory of the run and away from the files of the host, and so is all
that is laid out for any of them. -/
theorem ofRequest_confines (directory : List (List Char)) :
    (∀ name path, FileName.check name = .ok path ↔
      FileName.Valid name ∧ path = FileName.join (FileName.components name.toList)) ∧
    (∀ name, ¬ FileName.Valid name →
      FileName.check name = .error (.badFileName name) ∨
        FileName.check name = .error (.dottedFileName name)) ∧
    (∀ name name' path path',
      FileName.check name = .ok path → FileName.check name' = .ok path' →
      (path = path' ↔ FileName.components name.toList = FileName.components name'.toList) ∧
        (path = path' ↔
          FileName.place directory name.toList = FileName.place directory name'.toList)) ∧
    (∀ r, ofRequest r = .error .repeatedFileName ↔
      r.ComparesNames ∧ ¬ (r.places directory).Nodup) ∧
    ∀ r w, ofRequest r = .ok w →
      w.files.map (fun f => FileName.place directory f.name.toList) = r.places directory ∧
      (∀ place ∈ r.places directory, FileName.Confined directory place) ∧
      ∀ files ⊆ w.files, ∀ t, FileTree.ofFiles files = .ok t →
        ∀ host ∈ FileName.hostFiles, ∀ below, t.find? (host :: below) = none := by
  refine ⟨fun _ _ => FileName.check_eq_ok_iff, fun _ => FileName.check_of_not_valid, ?_,
    fun r => ofRequest_eq_repeatedFileName_iff r directory,
    fun r w hw => ⟨map_place_of_ofRequest hw directory, ?_, ?_⟩⟩
  · intro name name' path path' h h'
    have hvalid := (FileName.check_eq_ok_iff.mp h).1
    have hvalid' := (FileName.check_eq_ok_iff.mp h').1
    rw [hvalid.place_eq_place_iff hvalid', and_self]
    exact FileName.check_eq_check_iff h h'
  · have hvalid := mapM_requestFile_iff.mp ⟨w.files, (ofRequest_eq_ok_iff.mp hw).files⟩
    exact List.forall_mem_map.mpr fun f hf => (hvalid f hf).confined directory
  · intro files hfiles t ht host hhost below
    have hnames : ∀ f ∈ files, FileName.Valid f.name := by
      intro f hf
      obtain ⟨requested, -, hname⟩ := exists_name_of_ofRequest hw (hfiles hf)
      exact (FileName.check_eq_ok_iff.mp (FileName.check_canonical hname)).1
    have hundotted := FileTree.undotted_empty.foldlM_write hnames ht
    exact hundotted _ ⟨host, rfl, FileName.dotted_of_mem_hostFiles hhost⟩

/-- Two spellings of one path, which a request may not have together, and a request with one of them
beside a file whose name holds dots but does not begin with one. -/
theorem ofRequest_confines_spellings :
    let directory := ["run".toList]
    let twice : Request :=
      { source := some "pass", files := some [⟨"./a//b", "1"⟩, ⟨"a/./b/", "2"⟩] }
    let once : Request :=
      { source := some "pass", files := some [⟨"./a//b", "1"⟩, ⟨"a/.program.bin", "2"⟩] }
    let w : Workspace :=
      ⟨"script", [⟨"", "pass", none⟩], [], [⟨"a/b", "1"⟩, ⟨"a/.program.bin", "2"⟩], none⟩
    FileName.Valid "./a//b" ∧ ¬ FileName.Valid "a/../../b" ∧
      (FileName.check "a/../../b" = .error (.badFileName "a/../../b") ∨
        FileName.check "a/../../b" = .error (.dottedFileName "a/../../b")) ∧
      FileName.place directory "./a//b".toList = FileName.place directory "a/./b/".toList ∧
      ¬ (twice.places directory).Nodup ∧ ofRequest once = .ok w ∧
      (∀ place ∈ once.places directory, FileName.Confined directory place) ∧
      ∃ t, FileTree.ofFiles w.files = .ok t ∧
        ∀ host ∈ FileName.hostFiles, ∀ below, t.find? (host :: below) = none := by
  intro directory twice once w
  obtain ⟨hcheck, hrefused, hsame, hrepeated, hconfined⟩ := ofRequest_confines directory
  have hw : ofRequest once = .ok w := by decide
  have hfirst : FileName.check "./a//b" = .ok "a/b" := by decide
  have hsecond : FileName.check "a/./b/" = .ok "a/b" := by decide
  have hup : ¬ FileName.Valid "a/../../b" := fun h => h.below (by decide)
  obtain ⟨t, ht⟩ : ∃ t, FileTree.ofFiles w.files = .ok t := ⟨_, rfl⟩
  obtain ⟨-, hplaces, hlaidOut⟩ := hconfined once w hw
  exact ⟨((hcheck _ _).mp hfirst).1, hup, hrefused _ hup,
    (hsame _ _ _ _ hfirst hsecond).2.mp rfl, ((hrepeated twice).mp (by decide)).2, hw, hplaces,
    t, ht, hlaidOut _ (List.Subset.refl _) t ht⟩

end Workspace

end Playground
