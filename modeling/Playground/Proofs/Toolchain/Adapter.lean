import Playground.Toolchain.Adapter

/-!
# What a failed compilation says

The compilation of a workspace keeps what its toolchain has reported. It fails iff there is an error
among its own reports: where the toolchain has nothing to run and gives no reason, a reason is added.

- `Explains`: what it is for a compilation of a workspace to tell what its toolchain has made of it.
- `ofCompilation_explains`: every compilation of a workspace does.
- `Explains.succeeded_iff`: it fails iff it reports an error.
-/

namespace Playground

namespace Compilation

variable {c : Compilation}

theorem hasError_eq_true_iff : c.hasError = true ↔ ∃ r ∈ c.reports, r.isError = true :=
  List.any_eq_true

theorem hasError_eq_false_iff : c.hasError = false ↔ ∀ r ∈ c.reports, r.isError = false := by
  simp [hasError]

end Compilation

namespace WorkspaceCompilation

/-- A compilation of a workspace tells what its toolchain has made of it. -/
structure Explains (o : WorkspaceCompilation) (c : Compilation) : Prop where
  /-- The reports are kept in order. One error without a place is added iff there is neither an
  artifact nor an error among them. -/
  reports : ∃ added, o.reports = c.reports ++ added ∧
    (added = [] ∨ ∃ e, added = [e] ∧ e.id = "PY0000" ∧ e.isError = true ∧
      e.start = none ∧ e.stop = none) ∧
    (added ≠ [] ↔ c.artifact = none ∧ ∀ r ∈ c.reports, r.isError = false)
  /-- It succeeds iff there is an artifact and no error comes with it. -/
  succeeded : o.succeeded = true ↔ c.artifact ≠ none ∧ ∀ r ∈ c.reports, r.isError = false
  /-- An artifact that comes with an error is discarded, and any other is kept. -/
  artifact : o.artifact = if c.hasError then none else c.artifact

variable (mode : Mode) {c : Compilation}

theorem ofCompilation_of_error (herror : c.hasError = true) :
    ofCompilation mode c = ⟨mode, none, c.reports⟩ := by
  simp [ofCompilation, Compilation.succeeded, herror]

theorem ofCompilation_of_artifact (herror : c.hasError = false) {a : Artifact}
    (hartifact : c.artifact = some a) : ofCompilation mode c = ⟨mode, some a, c.reports⟩ := by
  simp [ofCompilation, Compilation.succeeded, herror, hartifact]

theorem ofCompilation_of_none (herror : c.hasError = false) (hartifact : c.artifact = none) :
    ofCompilation mode c = ⟨mode, none, c.reports ++ [noArtifact]⟩ := by
  simp [ofCompilation, Compilation.succeeded, herror, hartifact]

/-- Every compilation of a workspace tells what its toolchain has made of it. -/
theorem ofCompilation_explains (c : Compilation) : (ofCompilation mode c).Explains c := by
  cases herror : c.hasError with
  | true =>
    obtain ⟨r, hr, hbad⟩ := Compilation.hasError_eq_true_iff.mp herror
    have hnot : ¬ ∀ r ∈ c.reports, r.isError = false := fun h => by simp [h r hr] at hbad
    rw [ofCompilation_of_error mode herror]
    exact
      { reports := ⟨[], (List.append_nil _).symm, .inl rfl,
          iff_of_false (fun h => h rfl) fun h => hnot h.2⟩
        succeeded := iff_of_false (fun h => nomatch h) fun h => hnot h.2
        artifact := by rw [herror]; rfl }
  | false =>
    have hclean := Compilation.hasError_eq_false_iff.mp herror
    cases hartifact : c.artifact with
    | some a =>
      rw [ofCompilation_of_artifact mode herror hartifact]
      exact
        { reports := ⟨[], (List.append_nil _).symm, .inl rfl,
            iff_of_false (fun h => h rfl) fun h => by simp [hartifact] at h⟩
          succeeded := iff_of_true rfl ⟨by simp [hartifact], hclean⟩
          artifact := by rw [herror, hartifact]; rfl }
    | none =>
      rw [ofCompilation_of_none mode herror hartifact]
      exact
        { reports := ⟨[noArtifact], rfl, .inr ⟨noArtifact, rfl, rfl, rfl, rfl, rfl⟩,
            iff_of_true (List.cons_ne_nil _ _) ⟨hartifact, hclean⟩⟩
          succeeded := iff_of_false (fun h => nomatch h) fun h => h.1 hartifact
          artifact := by rw [herror, hartifact]; rfl }

/-- A compilation fails iff it reports an error: its own reports tell why it failed. -/
theorem Explains.succeeded_iff {o : WorkspaceCompilation} (h : o.Explains c) :
    o.succeeded = true ↔ ∀ r ∈ o.reports, r.isError = false := by
  obtain ⟨added, hreports, hadded, hiff⟩ := h.reports
  rw [h.succeeded, hreports]
  rcases hadded with rfl | ⟨e, rfl, -, herror, -⟩
  · rw [List.append_nil]
    refine ⟨And.right, fun hclean => ⟨fun hnone => ?_, hclean⟩⟩
    exact hiff.mpr ⟨hnone, hclean⟩ rfl
  · have hnone := (hiff.mp (List.cons_ne_nil _ _)).1
    refine iff_of_false (fun h => h.1 hnone) fun hclean => ?_
    rw [hclean e (by simp)] at herror
    cases herror

end WorkspaceCompilation

end Playground
