import Playground.Proofs.Checks
import Playground.Proofs.Workspace.Lookup
import Playground.Workspace.Normalize

/-!
# Normal workspaces

What normalization establishes, for whatever needs it later on.

- `ofRequest_eq_ok_iff`: the workspace of a request, in terms of its parts.
- `WellFormed`: what every workspace of a request satisfies.
- `exists_entryBuffer_of_ofRequest`: there always is a buffer that the request is about.
-/

namespace Playground

/-! ## Using directives -/

/-- A directive stays on one line. -/
theorem Using.statement_line {directive line : String} (h : statement directive = .ok line) :
    '\r' ∉ line.toList ∧ '\n' ∉ line.toList := by
  unfold statement at h
  dsimp only at h
  split at h
  · cases h
  · next hbad =>
    have hlines : '\r' ∉ Text.trim directive.toList ∧ '\n' ∉ Text.trim directive.toList := by
      simp only [Bool.or_eq_true, List.contains_iff_mem, not_or] at hbad
      exact ⟨hbad.2, hbad.1.2⟩
    split at h
    · cases h
      simpa using hlines
    · split at h
      · cases h
        simpa using hlines
      · cases h

namespace Workspace

variable {r : Request} {w : Workspace}

/-! ## Parts of a request -/

theorem requestBuffers_ne_nil {bs : List Buffer} (h : requestBuffers r = .ok bs) : bs ≠ [] := by
  unfold requestBuffers at h
  split at h
  · cases h
  · next hnil _ =>
    cases h
    simpa using hnil
  · cases h
    simp
  · cases h
    simp
  · cases h

theorem distinct_eq_true_iff : ∀ xs : List String, distinct xs = true ↔ xs.Nodup
  | [] => by simp [distinct]
  | x :: xs => by
    rw [List.nodup_cons, ← distinct_eq_true_iff xs]
    simp [distinct]

/-- What a workspace has from its request. -/
structure IsOf (w : Workspace) (r : Request) : Prop where
  buffers : requestBuffers r = .ok w.buffers
  ids : (w.buffers.map (·.id)).Nodup
  /-- The active buffer is one of them. -/
  active : ∀ id, r.activeId = some id → id ∈ w.buffers.map (·.id)
  files : (r.files.getD []).mapM requestFile = .ok w.files
  names : (w.files.map (·.name)).Nodup
  usings : (r.usings.getD []).mapM Using.statement = .ok w.usings
  kind : w.kind = kindOf r.kind
  activeId : w.activeId = r.activeId

/-- A request is accepted iff each of its parts is. -/
theorem ofRequest_eq_ok_iff : ofRequest r = .ok w ↔ w.IsOf r := by
  have hsteps : ofRequest r = .ok w ↔ ∃ buffers, requestBuffers r = .ok buffers ∧
      (buffers.map (·.id)).Nodup ∧
      (∀ id, r.activeId = some id → id ∈ buffers.map (·.id)) ∧
      ∃ files, (r.files.getD []).mapM requestFile = .ok files ∧ (files.map (·.name)).Nodup ∧
      ∃ usings, (r.usings.getD []).mapM Using.statement = .ok usings ∧
      (.ok ⟨kindOf r.kind, buffers, usings, files, r.activeId⟩ : Except Refusal _) = .ok w := by
    -- the steps are nested behind the question whether there is an active buffer
    unfold ofRequest
    cases r.activeId with
    | none =>
      simp only [Checks.bind_eq_ok_iff, Checks.guard_eq_ok_iff, distinct_eq_true_iff]
      simp [pure, Except.pure]
    | some id =>
      simp only [Checks.bind_eq_ok_iff, Checks.guard_eq_ok_iff, distinct_eq_true_iff]
      simp [pure, Except.pure]
  rw [hsteps]
  constructor
  · rintro ⟨buffers, hbuffers, hids, hid, files, hfiles, hnames, usings, husings, h⟩
    generalize hkind : kindOf r.kind = kind at h
    cases h
    exact ⟨hbuffers, hids, hid, hfiles, hnames, husings, hkind.symm, rfl⟩
  · intro h
    refine ⟨_, h.buffers, h.ids, h.active, _, h.files, h.names, _, h.usings, ?_⟩
    rw [← h.kind, ← h.activeId]

/-! ## Well-formed workspaces -/

/-- What every workspace of a request satisfies. -/
structure WellFormed (w : Workspace) : Prop where
  buffers : w.buffers ≠ []
  ids : (w.buffers.map (·.id)).Nodup
  active : ∀ id, w.activeId = some id → id ∈ w.buffers.map (·.id)
  usings : ∀ u ∈ w.usings, '\r' ∉ u.toList ∧ '\n' ∉ u.toList

theorem IsOf.wellFormed (h : w.IsOf r) : w.WellFormed where
  buffers := requestBuffers_ne_nil h.buffers
  ids := h.ids
  active := h.activeId ▸ h.active
  usings u hu := by
    obtain ⟨directive, -, hdirective⟩ := Checks.exists_mem_of_mapM h.usings hu
    exact Using.statement_line hdirective

theorem wellFormed_of_ofRequest (h : ofRequest r = .ok w) : w.WellFormed :=
  (ofRequest_eq_ok_iff.mp h).wellFormed

/-- There always is a buffer that the request is about. -/
theorem exists_entryBuffer_of_ofRequest (h : ofRequest r = .ok w) :
    ∃ b, w.entryBuffer = .ok b :=
  let hw := wellFormed_of_ofRequest h
  exists_entryBuffer hw.buffers hw.active

end Workspace

end Playground
