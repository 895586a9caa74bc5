import Playground.Proofs.Diagnostic.Within
import Playground.Proofs.Toolchain.Adapter
import Playground.Proofs.Toolchain.FrontEnd

/-!
# Consistent compilations

What a compilation yields is consistent, whatever lines and columns the front end tells, as long as
it comes to an end or finds a fault.

- `Errors`: what can be wrong with a text.
- `Consistent`: what it is for the artifact and the reports of a compilation to agree.
- `consistent_of_errors`: they do if there is an artifact iff nothing is wrong with the text.
- `compile_consistent`: every compilation that is not broken off is consistent, and the diagnostics
  of a workspace that come of it concern no buffer iff they start in the using directives.
-/

namespace Playground.FrontEnd

variable {ε σ : Type} {f : FrontEnd ε σ} {text : String} {mode : Mode}

/-- What is wrong with a text: all that the mode objects to, unless the front end stops, or else the
one fault on which it stops. -/
inductive Errors (f : FrontEnd ε σ) (text : String) (mode : Mode) : List Report → Prop
  | checked {body : List (TopStatement ε σ)} : (f.read text).1 = .ok body →
    (∀ reason, ¬ f.Stops text mode reason) →
    Errors f text mode (mode.check (.ofText text.toList) body)
  | faulty {fault : Source.SyntaxFault} : f.Stops text mode (.fault fault) →
    Errors f text mode [.ofFault (.ofText text.toList) fault]

/-- A compilation in which the artifact and the reports agree. -/
structure Consistent (f : FrontEnd ε σ) (text : String) (mode : Mode) (c : Compilation) :
    Prop where
  /-- There is something to run iff there is no error. -/
  artifact : c.artifact.isSome = true ↔ ∀ r ∈ c.reports, r.isError = false
  /-- A workspace adds nothing to it and discards nothing. -/
  kept : WorkspaceCompilation.ofCompilation mode c = ⟨mode, c.artifact, c.reports⟩
  /-- All errors come before all warnings. -/
  ordered : ∃ errors, f.Errors text mode errors ∧
    c.reports = errors ++ warnings (.ofText text.toList) (f.given text mode) ∧
    (∀ r ∈ errors, r.isError = true) ∧
    ∀ r ∈ warnings (.ofText text.toList) (f.given text mode), r.isError = false
  within : ∀ r ∈ c.reports, r.Within text.length
  /-- Only a program without an entry point is told of without a place. -/
  unplaced : ∀ r ∈ c.reports, r.start = none → r.id = "PY5001" ∧ mode = .program ∧
    ∃ body, (f.read text).1 = .ok body ∧ ProgramCheck.entries body = []

/-! ## Errors -/

variable {errors : List Report}

theorem Errors.isError (h : f.Errors text mode errors) : ∀ r ∈ errors, r.isError = true := by
  intro r hr
  cases h with
  | checked => exact Mode.isError_check hr
  | faulty =>
    rw [List.mem_singleton.mp hr]
    rfl

theorem Errors.within (h : f.Errors text mode errors) :
    ∀ r ∈ errors, r.Within text.length := by
  intro r hr
  rw [← String.length_toList]
  cases h with
  | checked => exact Mode.check_within hr
  | faulty =>
    rw [List.mem_singleton.mp hr]
    exact Report.ofFault_within _ _

theorem Errors.unplaced (h : f.Errors text mode errors) :
    ∀ r ∈ errors, r.start = none → r.id = "PY5001" ∧ mode = .program ∧
      ∃ body, (f.read text).1 = .ok body ∧ ProgramCheck.entries body = [] := by
  intro r hr hstart
  cases h with
  | checked hread =>
    obtain ⟨hmode, hnone, hid⟩ := Mode.check_unplaced hr hstart
    exact ⟨hid, hmode, _, hread, hnone⟩
  | faulty =>
    rw [List.mem_singleton.mp hr] at hstart
    cases hstart

/-! ## Warnings -/

/-- Every warning is about a line of the text, and is no error. -/
theorem of_mem_warnings {ws : List Source.SourceWarning} {r : Report}
    (hr : r ∈ warnings (.ofText text.toList) ws) :
    r.isError = false ∧ r.Within text.length ∧ r.start ≠ none := by
  obtain ⟨w, -, rfl⟩ := List.mem_map.mp hr
  rw [← String.length_toList]
  exact ⟨rfl, Report.ofWarning_within _ _ _ _, Option.some_ne_none _⟩

/-! ## Compilations -/

/-- Errors followed by warnings are consistent with an artifact iff there are no errors. -/
theorem consistent_of_errors (h : f.Errors text mode errors) {artifact : Option Artifact}
    (hartifact : artifact.isSome = true ↔ errors = []) :
    f.Consistent text mode
      ⟨artifact, errors ++ warnings (.ofText text.toList) (f.given text mode)⟩ := by
  have hclean : errors = [] ↔
      ∀ r ∈ errors ++ warnings (.ofText text.toList) (f.given text mode), r.isError = false := by
    constructor
    · rintro rfl r hr
      exact (of_mem_warnings hr).1
    · intro hall
      rw [List.eq_nil_iff_forall_not_mem]
      intro r hr
      have hfalse := hall r (List.mem_append_left _ hr)
      rw [h.isError r hr] at hfalse
      cases hfalse
  exact
    { artifact := hartifact.trans hclean
      kept := by
        cases artifact with
        | some a =>
          refine WorkspaceCompilation.ofCompilation_of_artifact mode ?_ rfl
          exact Compilation.hasError_eq_false_iff.mpr (hclean.mp (hartifact.mp rfl))
        | none =>
          refine WorkspaceCompilation.ofCompilation_of_error mode ?_
          rw [← Bool.not_eq_false, Compilation.hasError_eq_false_iff, ← hclean, ← hartifact]
          exact Bool.false_ne_true
      ordered := ⟨errors, h, rfl, h.isError, fun r hr => (of_mem_warnings hr).1⟩
      within := fun r hr => (List.mem_append.mp hr).elim (h.within r) fun hr =>
        (of_mem_warnings hr).2.1
      unplaced := fun r hr hstart => (List.mem_append.mp hr).elim (fun hr => h.unplaced r hr hstart)
        fun hr => absurd hstart (of_mem_warnings hr).2.2 }

/-- A compilation that is not broken off is consistent. -/
theorem exists_consistent (hnull : '\x00' ∉ text.toList)
    (hends : ∀ cause, ¬ f.Stops text mode (.breakdown cause)) :
    ∃ c, f.compile text mode = .ok c ∧ f.Consistent text mode c := by
  have hcourse := compile_course f text mode
  generalize f.compile text mode = compiled at hcourse
  cases hcourse with
  | nullCharacter hnull' => exact absurd hnull' hnull
  | brokenOff _ hstops => exact absurd hstops (hends _)
  | faulty _ hstops =>
    exact ⟨_, rfl, consistent_of_errors (.faulty hstops) (iff_of_false nofun nofun)⟩
  | objected _ hread hcheck =>
    have hgoes : ∀ reason, ¬ f.Stops text mode reason := fun reason hstops =>
      hcheck (hstops.of_read hread).1
    exact ⟨_, rfl, consistent_of_errors (.checked hread hgoes) (iff_of_false nofun hcheck)⟩
  | generated _ hread hcheck hgenerate =>
    have hgoes : ∀ reason, ¬ f.Stops text mode reason := fun reason hstops =>
      nomatch hgenerate.symm.trans (hstops.of_read hread).2
    have herrors := Errors.checked hread hgoes
    rw [hcheck] at herrors
    exact ⟨_, rfl, consistent_of_errors herrors (iff_of_true rfl rfl)⟩

theorem consistent_of_compile {c : Compilation} (hcompile : f.compile text mode = .ok c) :
    f.Consistent text mode c := by
  have hok : ∀ cause, f.compile text mode ≠ .error cause := by
    intro cause herror
    rw [hcompile] at herror
    cases herror
  have hnull : '\x00' ∉ text.toList := fun hnull =>
    hok _ (compile_eq_error_iff.mpr (.inl ⟨hnull, rfl⟩))
  have hends : ∀ cause, ¬ f.Stops text mode (.breakdown cause) := fun cause hstops =>
    hok _ (compile_eq_error_iff.mpr (.inr ⟨hnull, hstops⟩))
  obtain ⟨c', hcompile', hconsistent⟩ := exists_consistent hnull hends
  obtain rfl := Except.ok.inj (hcompile.symm.trans hcompile')
  exact hconsistent

/-- A front end that reads a text and generates code from it, or finds a fault in it, makes a
consistent compilation of it, whatever places it tells. If the text is that of a workspace, the
diagnostics of the compilation concern no buffer iff they start in the using directives. -/
theorem compile_consistent (hnull : '\x00' ∉ text.toList)
    (hends : ∀ cause, ¬ f.Stops text mode (.breakdown cause)) :
    ∃ c, f.compile text mode = .ok c ∧ f.Consistent text mode c ∧
      ∀ (request : Request) (w : Workspace), Workspace.ofRequest request = .ok w →
        w.merged.text = text → ∀ r ∈ c.reports, ∃ d, Diagnostic.map w r = .ok d ∧
          (d.bufferId = none ↔
            ∃ start, r.start = some start ∧ 0 ≤ start ∧ start < (usingLines w.usings).length) := by
  obtain ⟨c, hcompile, hconsistent⟩ := exists_consistent hnull hends
  refine ⟨c, hcompile, hconsistent, ?_⟩
  rintro request w hw rfl r hr
  obtain ⟨d, hmap, hfaithful⟩ :=
    Diagnostic.map_faithful (Workspace.wellFormed_of_ofRequest hw) r
  exact ⟨d, hmap, hfaithful.bufferId_eq_none_iff (hconsistent.within r hr)⟩

/-- A front end that tells places beyond the text, and warns of a directive. -/
theorem compile_consistent_misplaced :
    let f : FrontEnd Unit Unit :=
      ⟨fun _ => (.ok [⟨⟨7, -3, none, some 400⟩, .other ()⟩,
          ⟨⟨2, 0, some 1, some 2⟩, .function "main" ⟨1, 0, []⟩ ()⟩], [⟨"unused", 1, true⟩]),
        fun _ _ => (.ok (), [])⟩
    let request : Request :=
      { kind := some "program", source := some "def main(x): pass", usings := some ["os"] }
    let w : Workspace :=
      ⟨"program", [⟨"", "def main(x): pass", none⟩], ["import os"], [], none⟩
    let text := "import os\ndef main(x): pass"
    let reports : List Report :=
      [.placedError "PY5002"
          "Only declarations are allowed at program scope; move statements into main()" 27 27,
        .placedError "PY5001"
          "'main' must be callable without arguments to be used as an entry point" 10 18,
        .placedWarning "PY2001" "unused" 0 9]
    '\x00' ∉ text.toList ∧ (∀ cause, ¬ f.Stops text .program (.breakdown cause)) ∧
      f.compile text .program = .ok ⟨none, reports⟩ ∧
      f.Consistent text .program ⟨none, reports⟩ ∧
      Workspace.ofRequest request = .ok w ∧ w.merged.text = text ∧
      ∃ d, Diagnostic.map w (.placedWarning "PY2001" "unused" 0 9) = .ok d ∧ d.bufferId = none := by
  intro f request w text reports
  have hnull : '\x00' ∉ text.toList := by decide
  have hends : ∀ cause, ¬ f.Stops text .program (.breakdown cause) := by
    rintro cause (hread | ⟨-, -, hgenerate⟩)
    · cases hread
    · cases hgenerate
  have hcompile : f.compile text .program = .ok ⟨none, reports⟩ := by decide
  have hw : Workspace.ofRequest request = .ok w := by decide
  have hmerged : w.merged.text = text := by decide
  obtain ⟨c, hc, hconsistent, hmap⟩ := compile_consistent hnull hends
  obtain rfl : _ = c := Except.ok.inj (hcompile.symm.trans hc)
  obtain ⟨d, hd, hiff⟩ := hmap request w hw hmerged (.placedWarning "PY2001" "unused" 0 9)
    (by decide)
  exact ⟨hnull, hends, hcompile, hconsistent, hw, hmerged, d, hd,
    hiff.mpr ⟨0, rfl, by decide, by decide⟩⟩

end Playground.FrontEnd
