import Playground.Proofs.Text.Blank
import Playground.Proofs.Workspace.Normal
import Playground.Proofs.Workspace.Using

/-!
# Acceptance

Normalization accepts the valid requests, whatever their shape, and tells for every other request
what is wrong with it.

- `Request.Valid`: which requests are valid.
- `Refusal.Explains`: what a refusal says about a request.
- `Normal`: what holds of the workspace of a request.
- `ofRequest_accepts_valid`: acceptance is validity, refusals explain themselves, and workspaces are
  normal.
-/

namespace Playground

/-! ## Valid requests -/

namespace Request

/-- The buffers of a request. One that is not given as such has no name, and the cursor of the
request. -/
def chosen (r : Request) : List Buffer :=
  match r.buffers with
  | some bs => bs.map fun b => ⟨b.id, b.content, b.position⟩
  | none =>
    match r.buffer.or r.source with
    | some content => [⟨"", content, r.position⟩]
    | none => []

/-- The names under which the files of a request are laid out. -/
def FileNames (r : Request) (names : List String) : Prop :=
  List.Forall₂ (fun f name => FileName.check f.name = .ok name) (r.files.getD []) names

/-- A request that is accepted. -/
structure Valid (r : Request) : Prop where
  buffers : r.buffers ≠ some []
  source : r.buffers ≠ none ∨ r.buffer ≠ none ∨ r.source ≠ none
  ids : (r.chosen.map (·.id)).Nodup
  active : ∀ id, r.activeId = some id → id ∈ r.chosen.map (·.id)
  /-- Files may not have the same name once they are laid out. -/
  files : ∃ names, r.FileNames names ∧ names.Nodup
  usings : ∀ u ∈ r.usings.getD [], Using.Valid u

end Request

/-! ## Refusals -/

/-- What a refusal says about the request that is refused. A request that was read is not refused
for anything else. -/
def Refusal.Explains (r : Request) : Refusal → Prop
  | .noBuffers => r.buffers = some []
  | .noSource => r.buffers = none ∧ r.buffer = none ∧ r.source = none
  | .repeatedBufferId => ¬ (r.chosen.map (·.id)).Nodup
  | .unknownActiveBuffer id => r.activeId = some id ∧ id ∉ r.chosen.map (·.id)
  | .badFileName name =>
    (∃ f ∈ r.files.getD [], f.name = name) ∧ FileName.check name = .error (.badFileName name)
  | .dottedFileName name =>
    (∃ f ∈ r.files.getD [], f.name = name) ∧ FileName.check name = .error (.dottedFileName name)
  | .repeatedFileName => ∃ names, r.FileNames names ∧ ¬ names.Nodup
  | .badUsing u => u ∈ r.usings.getD [] ∧ ¬ Using.Valid u
  | .unreadable _ | .noPosition | .positionOutside _ _ | .badHeader _ _ | .headerOutOfRange _ _ =>
    False

/-- A file name that is refused is told. -/
theorem FileName.check_eq_error {name : String} {e : Refusal} (h : check name = .error e) :
    e = .badFileName name ∨ e = .dottedFileName name := by
  unfold check at h
  dsimp only at h
  split at h
  · cases h
    exact .inl rfl
  · split at h
    · cases h
      exact .inl rfl
    · split at h
      · cases h
        exact .inr rfl
      · cases h

namespace Request.FileNames

variable {r : Request} {names : List String}

/-- The names of the files are determined by the request. -/
theorem unique (h : r.FileNames names) {others : List String} (h' : r.FileNames others) :
    names = others :=
  List.right_unique_forall₂' (fun _ _ _ h h' => Except.ok.inj (h.symm.trans h')) h h'

/-- The names of the files that are laid out. -/
theorem of_mapM {files : List WorkspaceFile}
    (h : (r.files.getD []).mapM Workspace.requestFile = .ok files) :
    r.FileNames (files.map (·.name)) := by
  rw [FileNames, List.forall₂_map_right_iff]
  refine (Checks.mapM_eq_ok_iff.mp h).imp fun f file hfile => ?_
  obtain ⟨name, hname, hfile⟩ := Checks.bind_eq_ok_iff.mp hfile
  cases hfile
  exact hname

end Request.FileNames

namespace Refusal

variable {r : Request} {e : Refusal}

/-- Whatever is said about a request makes it invalid. -/
theorem Explains.not_valid (h : e.Explains r) : ¬ r.Valid := by
  intro hr
  cases e with
  | noBuffers => exact hr.buffers h
  | noSource =>
    obtain ⟨hbuffers, hbuffer, hsource⟩ := h
    exact hr.source.elim (absurd hbuffers) fun h => h.elim (absurd hbuffer) (absurd hsource)
  | repeatedBufferId => exact h hr.ids
  | unknownActiveBuffer id => exact h.2 (hr.active id h.1)
  | badFileName name | dottedFileName name =>
    obtain ⟨⟨f, hf, rfl⟩, hcheck⟩ := h
    obtain ⟨names, hnames, -⟩ := hr.files
    obtain ⟨name, hname⟩ := Checks.exists_of_forall₂ hnames f hf
    rw [hname] at hcheck
    cases hcheck
  | repeatedFileName =>
    obtain ⟨names, hnames, hrepeated⟩ := h
    obtain ⟨names', hnames', hnodup⟩ := hr.files
    exact hrepeated (hnames.unique hnames' ▸ hnodup)
  | badUsing u => exact h.2 (hr.usings u h.1)
  | unreadable | noPosition | positionOutside | badHeader | headerOutOfRange => exact h

end Refusal

namespace Workspace

variable {r : Request} {w : Workspace} {e : Refusal}

/-! ## Refused requests -/

/-- The buffers of a request are chosen, or there are none. -/
theorem requestBuffers_cases (r : Request) :
    (requestBuffers r = .ok r.chosen ∧ r.buffers ≠ some [] ∧
        (r.buffers ≠ none ∨ r.buffer ≠ none ∨ r.source ≠ none)) ∨
      ∃ e, requestBuffers r = .error e ∧ e.Explains r := by
  obtain ⟨buffer, source, position, buffers, usings, kind, files, activeId⟩ := r
  cases buffers with
  | some bs =>
    cases bs with
    | nil => exact .inr ⟨.noBuffers, rfl, rfl⟩
    | cons b bs => exact .inl ⟨rfl, by simp, by simp⟩
  | none =>
    cases buffer with
    | some content => exact .inl ⟨rfl, by simp, by simp⟩
    | none =>
      cases source with
      | some content => exact .inl ⟨rfl, by simp, by simp⟩
      | none => exact .inr ⟨.noSource, rfl, rfl, rfl, rfl⟩

theorem requestBuffers_eq_ok {bs : List Buffer} (h : requestBuffers r = .ok bs) :
    bs = r.chosen ∧ r.buffers ≠ some [] ∧
      (r.buffers ≠ none ∨ r.buffer ≠ none ∨ r.source ≠ none) := by
  rcases requestBuffers_cases r with ⟨hok, hrest⟩ | ⟨e, herror, -⟩
  · exact ⟨Except.ok.inj (h.symm.trans hok), hrest⟩
  · rw [h] at herror
    cases herror

theorem explains_of_requestBuffers (h : requestBuffers r = .error e) : e.Explains r := by
  rcases requestBuffers_cases r with ⟨hok, -⟩ | ⟨e', herror, hexplains⟩
  · rw [h] at hok
    cases hok
  · exact Except.error.inj (h.symm.trans herror) ▸ hexplains

theorem explains_of_files (h : (r.files.getD []).mapM requestFile = .error e) : e.Explains r := by
  obtain ⟨f, hf, herror⟩ := Checks.exists_mem_of_mapM_error h
  rcases Checks.bind_eq_error_iff.mp herror with hcheck | ⟨name, -, hfile⟩
  · rcases FileName.check_eq_error hcheck with rfl | rfl
    · exact ⟨⟨f, hf, rfl⟩, hcheck⟩
    · exact ⟨⟨f, hf, rfl⟩, hcheck⟩
  · cases hfile

theorem explains_of_usings (h : (r.usings.getD []).mapM Using.statement = .error e) :
    e.Explains r := by
  obtain ⟨u, hu, herror⟩ := Checks.exists_mem_of_mapM_error h
  rcases Using.statement_cases u with ⟨-, line, hline, -⟩ | ⟨hinvalid, hrefused⟩
  · rw [hline] at herror
    cases herror
  · rw [hrefused] at herror
    cases herror
    exact ⟨hu, hinvalid⟩

/-- A request is refused for what is wrong with it. -/
theorem explains_of_ofRequest (h : ofRequest r = .error e) : e.Explains r := by
  have hsteps : requestBuffers r = .error e ∨ ∃ buffers, requestBuffers r = .ok buffers ∧
      ((¬ (buffers.map (·.id)).Nodup ∧ .repeatedBufferId = e) ∨
      (∃ id, r.activeId = some id ∧ id ∉ buffers.map (·.id) ∧ .unknownActiveBuffer id = e) ∨
      (r.files.getD []).mapM requestFile = .error e ∨
      (∃ files, (r.files.getD []).mapM requestFile = .ok files ∧
        ¬ (files.map (·.name)).Nodup ∧ .repeatedFileName = e) ∨
      (r.usings.getD []).mapM Using.statement = .error e) := by
    unfold ofRequest at h
    cases hactive : r.activeId with
    | none =>
      rw [hactive] at h
      simp only [Checks.bind_eq_error_iff, Checks.guard_eq_error_iff, distinct_eq_true_iff] at h
      simp only [pure, Except.pure, reduceCtorEq, and_false, exists_false, or_false] at h
      grind
    | some id =>
      rw [hactive] at h
      simp only [Checks.bind_eq_error_iff, Checks.guard_eq_error_iff, distinct_eq_true_iff] at h
      simp only [pure, Except.pure, reduceCtorEq, and_false, exists_false, or_false] at h
      grind
  rcases hsteps with hbuffers | ⟨buffers, hbuffers, hsteps⟩
  · exact explains_of_requestBuffers hbuffers
  · obtain ⟨rfl, -⟩ := requestBuffers_eq_ok hbuffers
    rcases hsteps with ⟨hids, rfl⟩ | ⟨id, hactive, hid, rfl⟩ | hfiles | ⟨files, hfiles, hnames, rfl⟩ |
      husings
    · exact hids
    · exact ⟨hactive, hid⟩
    · exact explains_of_files hfiles
    · exact ⟨_, .of_mapM hfiles, hnames⟩
    · exact explains_of_usings husings

/-! ## Accepted requests -/

/-- What becomes a workspace was a valid request. -/
theorem IsOf.valid (h : w.IsOf r) : r.Valid := by
  obtain ⟨hbuffers, hne, hsource⟩ := requestBuffers_eq_ok h.buffers
  exact
    { buffers := hne
      source := hsource
      ids := hbuffers ▸ h.ids
      active := hbuffers ▸ h.active
      files := ⟨_, .of_mapM h.files, h.names⟩
      usings := fun u hu => by
        obtain ⟨line, hline⟩ := Checks.exists_of_forall₂ (Checks.mapM_eq_ok_iff.mp h.usings) u hu
        rcases Using.statement_cases u with ⟨hvalid, -⟩ | ⟨-, hrefused⟩
        · exact hvalid
        · rw [hline] at hrefused
          cases hrefused }

/-- The kind of a workspace says something, and has no white space around it. -/
theorem kindOf_trimmed (kind : Option String) :
    kindOf kind ≠ "" ∧ Text.IsTrimmed (kindOf kind).toList := by
  unfold kindOf
  dsimp only
  split
  · have hscript : Text.trim scriptKind.toList = scriptKind.toList := by decide
    exact ⟨by decide, hscript ▸ Text.isTrimmed_trim _⟩
  · next hne =>
    rw [String.toList_ofList]
    exact ⟨hne, Text.isTrimmed_trim _⟩

/-- What holds of the workspace of a request. -/
structure Normal (w : Workspace) (r : Request) : Prop where
  buffers : w.buffers = r.chosen ∧ w.buffers ≠ []
  ids : (w.buffers.map (·.id)).Nodup
  kind : w.kind ≠ "" ∧ Text.IsTrimmed w.kind.toList
  /-- Each using directive is an import statement on one line. -/
  usings : ∀ u ∈ w.usings, Using.IsStatement u.toList ∧ '\r' ∉ u.toList ∧ '\n' ∉ u.toList
  activeId : w.activeId = r.activeId
  /-- There always is a buffer that the workspace is about. -/
  entry : ∃ b, w.entryBuffer = .ok b ∧ w.IsEntry b

theorem IsOf.normal (h : w.IsOf r) : w.Normal r where
  buffers := ⟨(requestBuffers_eq_ok h.buffers).1, h.wellFormed.buffers⟩
  ids := h.ids
  kind := h.kind ▸ kindOf_trimmed r.kind
  usings u hu := by
    refine ⟨?_, h.wellFormed.usings u hu⟩
    obtain ⟨directive, -, hdirective⟩ := Checks.exists_mem_of_mapM h.usings hu
    rcases Using.statement_cases directive with ⟨-, line, hline, hstatement⟩ | ⟨-, hrefused⟩
    · exact Except.ok.inj (hline.symm.trans hdirective) ▸ hstatement
    · rw [hrefused] at hdirective
      cases hdirective
  activeId := h.activeId
  entry :=
    let ⟨b, hb⟩ := exists_entryBuffer h.wellFormed.buffers h.wellFormed.active
    ⟨b, hb, isEntry_of_entryBuffer hb⟩

/-! ## Shapes -/

/-- Of the sources of a request only the buffers matter that are chosen from them. -/
theorem ofRequest_congr {r' : Request} (hbuffers : requestBuffers r = requestBuffers r')
    (hactive : r.activeId = r'.activeId) (hfiles : r.files = r'.files)
    (husings : r.usings = r'.usings) (hkind : r.kind = r'.kind) : ofRequest r = ofRequest r' := by
  unfold ofRequest
  rw [hbuffers, hactive, hfiles, husings, hkind]

/-- A request is accepted iff it is valid, and what it becomes is normal. Any other is refused for
what is wrong with it. A buffer, a source and a list of one buffer without a name are the same. -/
theorem ofRequest_accepts_valid (r : Request) :
    ((∃ w, ofRequest r = .ok w) ↔ r.Valid) ∧
      (∀ w, ofRequest r = .ok w → w.Normal r) ∧
      (¬ r.Valid → ∃ e, ofRequest r = .error e ∧ e.Explains r) ∧
      ∀ content,
        let single := ofRequest { r with buffers := some [⟨"", content, r.position⟩] }
        ofRequest { r with buffers := none, buffer := some content } = single ∧
          ofRequest { r with buffers := none, buffer := none, source := some content } = single := by
  have hrefused (hr : ¬ r.Valid) : ∃ e, ofRequest r = .error e ∧ e.Explains r := by
    cases h : ofRequest r with
    | ok w => exact absurd (ofRequest_eq_ok_iff.mp h).valid hr
    | error e => exact ⟨e, rfl, explains_of_ofRequest h⟩
  refine ⟨⟨?_, fun hr => ?_⟩, ?_, hrefused, fun content => ⟨?_, ?_⟩⟩
  · rintro ⟨w, hw⟩
    exact (ofRequest_eq_ok_iff.mp hw).valid
  · cases h : ofRequest r with
    | ok w => exact ⟨w, rfl⟩
    | error e => exact absurd hr (explains_of_ofRequest h).not_valid
  · exact fun w hw => (ofRequest_eq_ok_iff.mp hw).normal
  · exact ofRequest_congr rfl rfl rfl rfl rfl
  · exact ofRequest_congr rfl rfl rfl rfl rfl

/-- Two buffers of a console program, with directives of either form and a file in a directory. -/
theorem ofRequest_accepts_valid_console :
    let r : Request :=
      { buffers := some [⟨"a", "def f(): pass", none⟩, ⟨"b", "f()", some 2⟩], kind := some " console "
        usings := some ["\tos.path ", "from math import pi\n"], files := some [⟨"data//a.txt", "1"⟩] }
    let w : Workspace :=
      ⟨"console", [⟨"a", "def f(): pass", none⟩, ⟨"b", "f()", some 2⟩],
        ["import os.path", "from math import pi"], [⟨"data/a.txt", "1"⟩], none⟩
    r.Valid ∧ ofRequest r = .ok w ∧ w.Normal r := by
  intro r w
  have hw : ofRequest r = .ok w := by decide
  obtain ⟨hvalid, hnormal, -⟩ := ofRequest_accepts_valid r
  exact ⟨hvalid.mp ⟨w, hw⟩, hw, hnormal w hw⟩

end Workspace

end Playground
