import Playground.Proofs.Workspace.Acceptance
import Playground.Proofs.Workspace.FileName

/-!
# Canonical workspaces

A workspace can be written back as a request that names all of its parts. Normalization changes
nothing about such a request: kinds and directives are trimmed, directives are import statements,
and file names are canonical already.

- `Workspace.toRequest`: the request that a workspace is written back as.
- `IsOf.toRequest`: what a request becomes is also what it becomes once it is written back.
- `ofRequest_idempotent`: normalizing twice is normalizing once.
-/

namespace Playground

/-! ## Directives -/

namespace Using

/-- A statement on one line stays as it is if there is no white space around it. -/
theorem statement_of_isStatement {line : String} (htrimmed : Text.IsTrimmed line.toList)
    (hline : '\r' ∉ line.toList ∧ '\n' ∉ line.toList) (hstatement : IsStatement line.toList) :
    statement line = .ok line := by
  have hne : line.toList ≠ [] := by
    intro hnil
    rw [hnil] at hstatement
    rcases hstatement with hstatement | hstatement <;>
      exact absurd (List.prefix_nil.mp hstatement) (by decide)
  have hgood : ¬ (line.toList.isEmpty || line.toList.contains '\n' ||
      line.toList.contains '\r') = true := by
    simp [hne, hline]
  have hstart : ("import ".toList.isPrefixOf line.toList ||
      "from ".toList.isPrefixOf line.toList) = true := by
    rw [Bool.or_eq_true, List.isPrefixOf_iff_prefix, List.isPrefixOf_iff_prefix]
    exact hstatement
  unfold statement
  rw [htrimmed.trim_eq]
  dsimp only
  rw [if_neg hgood, if_pos hstart, String.ofList_toList]

/-- There is no white space around the import statement of a directive. -/
theorem isTrimmed_statement {directive line : String} (h : statement directive = .ok line) :
    Text.IsTrimmed line.toList := by
  unfold statement at h
  dsimp only at h
  have htrimmed := Text.isTrimmed_trim directive.toList
  split at h
  · cases h
  · next hgood =>
    split at h
    · cases h
      rwa [String.toList_ofList]
    · split at h
      · cases h
        -- the word is put in front of a text that is not empty and ends as before
        have hne : Text.trim directive.toList ≠ [] := by simp_all
        have htext : ("import " ++ String.ofList (Text.trim directive.toList)).toList =
            "import ".toList ++ Text.trim directive.toList := by simp
        rw [htext]
        constructor
        · rintro c hc
          cases hc
          decide
        · rintro c hc
          rw [List.getLast?_append_of_ne_nil _ hne] at hc
          exact htrimmed.last c hc
      · cases h

/-- An import statement stays as it is. -/
theorem statement_statement {directive line : String} (h : statement directive = .ok line) :
    statement line = .ok line := by
  have hstatement : IsStatement line.toList := by
    rcases statement_cases directive with ⟨-, line', hline', hstatement⟩ | ⟨-, hrefused⟩
    · exact Except.ok.inj (hline'.symm.trans h) ▸ hstatement
    · rw [hrefused] at h
      cases h
  exact statement_of_isStatement (isTrimmed_statement h) (statement_line h) hstatement

end Using

namespace Workspace

variable {r : Request} {w : Workspace}

/-! ## Kinds -/

/-- The kind of a workspace stays as it is. -/
theorem kindOf_kindOf (kind : Option String) : kindOf (some (kindOf kind)) = kindOf kind := by
  obtain ⟨hne, htrimmed⟩ := kindOf_trimmed kind
  generalize kindOf kind = text at hne htrimmed
  unfold kindOf
  rw [Option.getD_some, htrimmed.trim_eq, String.ofList_toList, if_neg hne]

/-! ## Writing a workspace back -/

/-- A workspace as a request that names all of its parts. -/
def toRequest (w : Workspace) : Request :=
  { buffers := some (w.buffers.map fun b => ⟨b.id, b.content, b.position⟩)
    usings := some w.usings
    kind := some w.kind
    files := some (w.files.map fun f => ⟨f.name, f.text⟩)
    activeId := w.activeId }

theorem requestBuffers_toRequest (hne : w.buffers ≠ []) :
    requestBuffers w.toRequest = .ok w.buffers := by
  obtain ⟨b, bs, hbuffers⟩ := List.exists_cons_of_ne_nil hne
  simp [toRequest, requestBuffers, hbuffers, Function.comp_def]

/-- Files keep their names when they are laid out again. -/
theorem mapM_requestFile_toRequest (h : (r.files.getD []).mapM requestFile = .ok w.files) :
    (w.toRequest.files.getD []).mapM requestFile = .ok w.files := by
  show (w.files.map fun f => FileRequest.mk f.name f.text).mapM requestFile = .ok w.files
  rw [Checks.mapM_eq_ok_iff, List.forall₂_map_left_iff, List.forall₂_same]
  intro f hf
  obtain ⟨asked, -, hasked⟩ := Checks.exists_mem_of_mapM h hf
  obtain ⟨name, hname, hfile⟩ := Checks.bind_eq_ok_iff.mp hasked
  cases hfile
  exact Checks.bind_eq_ok_iff.mpr ⟨name, FileName.check_canonical hname, rfl⟩

/-- Directives stay as they are when they are read again. -/
theorem mapM_statement_toRequest (h : (r.usings.getD []).mapM Using.statement = .ok w.usings) :
    (w.toRequest.usings.getD []).mapM Using.statement = .ok w.usings := by
  show w.usings.mapM Using.statement = .ok w.usings
  rw [Checks.mapM_eq_ok_iff, List.forall₂_same]
  intro u hu
  obtain ⟨directive, -, hdirective⟩ := Checks.exists_mem_of_mapM h hu
  exact Using.statement_statement hdirective

/-- What a request becomes is also what it becomes once it is written back. -/
theorem IsOf.toRequest (h : w.IsOf r) : w.IsOf w.toRequest where
  buffers := requestBuffers_toRequest h.wellFormed.buffers
  ids := h.ids
  active := h.wellFormed.active
  files := mapM_requestFile_toRequest h.files
  names := h.names
  usings := mapM_statement_toRequest h.usings
  kind := by
    show w.kind = kindOf (some w.kind)
    rw [h.kind, kindOf_kindOf]
  activeId := rfl

/-- A workspace that is written back is accepted again, and becomes the same workspace, with the
same merged text, the same segments and the same entry buffer. -/
theorem ofRequest_idempotent (h : ofRequest r = .ok w) :
    ∃ w', ofRequest w.toRequest = .ok w' ∧ w' = w ∧ w'.merged.text = w.merged.text ∧
      w'.merged.sourceMap.segments = w.merged.sourceMap.segments ∧
      w'.entryBuffer = w.entryBuffer :=
  ⟨w, ofRequest_eq_ok_iff.mpr (ofRequest_eq_ok_iff.mp h).toRequest, rfl, rfl, rfl, rfl⟩

/-- A source with directives of either form, a blank kind, and a file by a roundabout path. -/
theorem ofRequest_idempotent_source :
    let r : Request :=
      { source := some "f()", position := some 2, kind := some " \t"
        usings := some ["\u2003os.path\n", " from  a import b"]
        files := some [⟨"./data//in/./a.txt/", "1"⟩, ⟨"b", ""⟩] }
    let w : Workspace :=
      ⟨"script", [⟨"", "f()", some 2⟩], ["import os.path", "from  a import b"],
        [⟨"data/in/a.txt", "1"⟩, ⟨"b", ""⟩], none⟩
    ofRequest r = .ok w ∧
      ∃ w', ofRequest w.toRequest = .ok w' ∧ w' = w ∧ w'.merged.text = w.merged.text ∧
        w'.merged.sourceMap.segments = w.merged.sourceMap.segments ∧
        w'.entryBuffer = w.entryBuffer := by
  intro r w
  have hw : ofRequest r = .ok w := by decide
  exact ⟨hw, ofRequest_idempotent hw⟩

end Workspace

end Playground
