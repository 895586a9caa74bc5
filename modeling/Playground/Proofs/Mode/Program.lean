import Mathlib.Data.Multiset.Basic
import Playground.Mode.Program

/-!
# Declarations in front of a program

What becomes of the reports on the body of a program when declarations are put in front of it, such
as the imports of using directives.

- `offending_append`: which statements offend in a body with declarations in front.
- `check_imports`: imports in front change no report but for a text at the start of the body, which
  documents the module only as long as nothing stands in front of it.
- `check_imports_rejects_text`: an accepted program that starts with a text is rejected once
  there is an import in front.
-/

namespace Playground

namespace ProgramCheck

variable {ε σ : Type}

/-- Whether a body starts with a text, which documents the module. -/
def StartsWithText (body : List (TopStatement ε σ)) : Prop :=
  ∃ s ∈ body.head?, isDocumentation s.form = true

/-- Whether a statement declares something other than a function. -/
def IsPlainDeclaration (s : TopStatement ε σ) : Prop :=
  ∃ statement, s.form = .declaration statement

/-! ## Offending statements -/

/-- Behind declarations nothing is at the start of the module. -/
theorem offending_append (first : Bool) :
    ∀ {front : List (TopStatement ε σ)} (body : List (TopStatement ε σ)),
      (∀ s ∈ front, IsPlainDeclaration s) →
        offending first (front ++ body) = offending (first && front.isEmpty) body
  | [], body, _ => by rw [List.nil_append, List.isEmpty_nil, Bool.and_true]
  | s :: front, body, hfront => by
    obtain ⟨⟨statement, hs⟩, hrest⟩ := List.forall_mem_cons.mp hfront
    rw [List.cons_append, offending, hs]
    simp only [isDeclaration, Bool.true_or, if_true]
    rw [offending_append false body hrest, Bool.false_and, List.isEmpty_cons, Bool.and_false]

/-- A text at the start offends unless it is at the start of the module. -/
theorem offending_false_of_startsWithText {body : List (TopStatement ε σ)}
    (h : StartsWithText body) : ∃ s, offending false body = s :: offending true body := by
  obtain ⟨s, hs, htext⟩ := h
  obtain ⟨rest, rfl⟩ := List.head?_eq_some_iff.mp hs
  have hdeclares : isDeclaration s.form = false := by
    cases hform : s.form <;> simp_all [isDocumentation, isDeclaration]
  exact ⟨s, by simp [offending, hdeclares, htext]⟩

/-- Any other statement offends wherever it is. -/
theorem offending_false_of_not {body : List (TopStatement ε σ)} (h : ¬ StartsWithText body) :
    offending false body = offending true body := by
  cases body with
  | nil => rfl
  | cons s rest =>
    have htext : isDocumentation s.form = false := by
      rw [← Bool.not_eq_true]
      exact fun htext => h ⟨s, rfl, htext⟩
    simp [offending, htext]

/-! ## Entry points -/

/-- Declarations in front of a body are no entry points. -/
theorem entries_append {front : List (TopStatement ε σ)} (body : List (TopStatement ε σ))
    (hfront : ∀ s ∈ front, IsPlainDeclaration s) : entries (front ++ body) = entries body := by
  have hnone : entries front = [] := by
    refine List.filterMap_eq_nil_iff.mpr fun s hs => ?_
    obtain ⟨statement, hform⟩ := hfront s hs
    rw [hform]
  unfold entries at hnone ⊢
  rw [List.filterMap_append, hnone, List.nil_append]

/-- What is wrong with the entry point does not depend on where it stands. -/
theorem entryReports_ids (t t' : Text.LineTable) {body body' : List (TopStatement ε σ)}
    (h : entries body = entries body') :
    (entryReports t body).map (·.id) = (entryReports t' body').map (·.id) := by
  unfold entryReports
  rw [h]
  cases (entries body').getLast? with
  | none => rfl
  | some entry =>
    obtain ⟨place, params⟩ := entry
    by_cases hparams : params.required = 0 <;> simp [hparams, Report.placedError]

/-! ## Reports -/

/-- Every offending statement is reported by the same code. -/
theorem misplaced_ids (t t' : Text.LineTable) (ss : List (TopStatement ε σ)) :
    (ss.map (misplaced t)).map (·.id) = (ss.map (misplaced t')).map (·.id) := by
  simp [Function.comp_def, misplaced, Report.placedError]

/-- Declarations in front of a body make a text at its start offend, and change no other report. -/
theorem reports_append (t t' : Text.LineTable) {front : List (TopStatement ε σ)}
    (body : List (TopStatement ε σ)) (hfront : ∀ s ∈ front, IsPlainDeclaration s) :
    (front ≠ [] ∧ StartsWithText body ∧
      (reports t (front ++ body)).map (·.id) = "PY5002" :: (reports t' body).map (·.id)) ∨
    (¬ (front ≠ [] ∧ StartsWithText body) ∧
      (reports t (front ++ body)).map (·.id) = (reports t' body).map (·.id)) := by
  have hentry := entryReports_ids t t' (entries_append body hfront)
  unfold reports
  rw [List.map_append, List.map_append, hentry, offending_append true body hfront, Bool.true_and]
  cases front with
  | nil =>
    refine .inr ⟨fun h => h.1 rfl, ?_⟩
    rw [List.isEmpty_nil, misplaced_ids t t']
  | cons s front =>
    rw [List.isEmpty_cons]
    by_cases htext : StartsWithText body
    · obtain ⟨text, hoffending⟩ := offending_false_of_startsWithText htext
      refine .inl ⟨List.cons_ne_nil _ _, htext, ?_⟩
      rw [hoffending, List.map_cons, List.map_cons, List.cons_append, misplaced_ids t t']
      rfl
    · refine .inr ⟨fun h => htext h.2, ?_⟩
      rw [offending_false_of_not htext, misplaced_ids t t']

end ProgramCheck

/-! ## Imports -/

/-- A statement that imports something. -/
def Source.Stmt.IsImport (s : Source.Stmt) : Prop :=
  match s.form with
  | .importNames _ | .importFrom .. => True
  | _ => False

/-- The statements of a module, as far as the modes tell them apart. -/
def Source.Module.top (body : Source.Module) :
    List (TopStatement Source.Expr Source.StmtForm) :=
  body.map .ofStatement

/-- The codes of what is reported about a module as a program, each as often as it is reported. -/
def Source.Module.programCodes (t : Text.LineTable) (body : Source.Module) : Multiset String :=
  (Mode.program.check t (top body)).map (·.id)

namespace ProgramCheck

theorem isPlainDeclaration_of_isImport {s : Source.Stmt} (h : s.IsImport) :
    IsPlainDeclaration (TopStatement.ofStatement s) := by
  unfold Source.Stmt.IsImport at h
  unfold IsPlainDeclaration TopStatement.ofStatement
  cases hform : s.form <;> rw [hform] at h <;> first | exact ⟨_, rfl⟩ | exact h.elim

open Source.Module in
/-- Imports in front of a program change no report, unless the program starts with a text: then that
text is reported, and nothing else changes. -/
theorem check_imports (t t' : Text.LineTable) {imports : Source.Module} (body : Source.Module)
    (himports : ∀ s ∈ imports, s.IsImport) :
    (programCodes t (imports ++ body) = programCodes t' body ↔
      imports = [] ∨ ¬ StartsWithText (top body)) ∧
    (imports ≠ [] → StartsWithText (top body) →
      programCodes t (imports ++ body) = "PY5002" ::ₘ programCodes t' body) := by
  have hfront : ∀ s ∈ top imports, IsPlainDeclaration s := by
    intro s hs
    obtain ⟨tree, htree, rfl⟩ := List.mem_map.mp hs
    exact isPlainDeclaration_of_isImport (himports tree htree)
  have happend : top (imports ++ body) = top imports ++ top body := List.map_append
  have hempty : top imports ≠ [] ↔ imports ≠ [] := not_congr List.map_eq_nil_iff
  unfold programCodes Mode.check
  dsimp only
  rw [happend]
  rcases reports_append t t' (top body) hfront with ⟨hne, htext, hids⟩ | ⟨hnot, hids⟩
  · rw [hids, ← Multiset.cons_coe]
    refine ⟨iff_of_false ?_ ?_, fun _ _ => rfl⟩
    -- a text that is reported is one report more
    · exact (Multiset.lt_cons_self _ _).ne'
    · simp [hempty.mp hne, htext]
  · rw [hids]
    refine ⟨iff_of_true rfl ?_, fun hne htext => absurd ⟨hempty.mpr hne, htext⟩ hnot⟩
    by_cases hne : imports = []
    · exact .inl hne
    · exact .inr fun htext => hnot ⟨hempty.mpr hne, htext⟩

/-- An import of two lines in front of an entry point that cannot be called, behind a text. -/
theorem check_imports_before_text :
    let t := Text.LineTable.ofText "import os\nfrom re import sub\n'Doc.'\ndef main(x): pass".toList
    let t' := Text.LineTable.ofText "'Doc.'\ndef main(x): pass".toList
    let imports : Source.Module :=
      [.mk ⟨1, 0, 1, 9⟩ (.importNames [⟨⟨1, 7, 1, 9⟩, "os", none⟩]),
        .mk ⟨2, 0, 2, 18⟩ (.importFrom (some "re") [⟨⟨2, 15, 2, 18⟩, "sub", none⟩] 0)]
    let body : Source.Module :=
      [.mk ⟨3, 0, 3, 6⟩ (.expr (.mk ⟨3, 0, 3, 6⟩ (.literal (.text "Doc." false)))),
        .mk ⟨4, 0, 4, 17⟩ (.functionDef false "main"
          (.mk [] [.mk ⟨4, 9, 4, 10⟩ "x" none] none [] [] none []) [.mk ⟨4, 13, 4, 17⟩ .pass] []
          none)]
    (∀ s ∈ imports, s.IsImport) ∧ imports ≠ [] ∧ StartsWithText (Source.Module.top body) ∧
      Source.Module.programCodes t (imports ++ body) =
        "PY5002" ::ₘ Source.Module.programCodes t' body := by
  intro t t' imports body
  have himports : ∀ s ∈ imports, s.IsImport := by
    simp [imports, Source.Stmt.IsImport, Source.Stmt.form]
  have htext : StartsWithText (Source.Module.top body) := ⟨_, rfl, rfl⟩
  exact ⟨himports, List.cons_ne_nil _ _, htext,
    (check_imports t t' body himports).2 (List.cons_ne_nil _ _) htext⟩

/-- A program that starts with a text is accepted, and rejected with an import in front of it. -/
theorem check_imports_rejects_text :
    let t := Text.LineTable.ofText "import os\n'Doc.'\ndef main(): pass".toList
    let t' := Text.LineTable.ofText "'Doc.'\ndef main(): pass".toList
    let imports : Source.Module :=
      [.mk ⟨1, 0, 1, 9⟩ (.importNames [⟨⟨1, 7, 1, 9⟩, "os", none⟩])]
    let body (line : Nat) : Source.Module :=
      [.mk ⟨line, 0, line, 6⟩ (.expr (.mk ⟨line, 0, line, 6⟩ (.literal (.text "Doc." false)))),
        .mk ⟨line + 1, 0, line + 1, 16⟩ (.functionDef false "main" .empty
          [.mk ⟨line + 1, 12, line + 1, 16⟩ .pass] [] none)]
    (∀ s ∈ imports, s.IsImport) ∧ Mode.program.check t' (Source.Module.top (body 1)) = [] ∧
      Mode.program.check t (Source.Module.top (imports ++ body 2)) =
        [.placedError "PY5002"
          "Only declarations are allowed at program scope; move statements into main()" 10 16] ∧
      Source.Module.programCodes t (imports ++ body 2) ≠
        Source.Module.programCodes t' (body 1) := by
  intro t t' imports body
  have himports : ∀ s ∈ imports, s.IsImport := by
    simp [imports, Source.Stmt.IsImport, Source.Stmt.form]
  have haccepted : Mode.program.check t' (Source.Module.top (body 1)) = [] := by decide
  have hrejected : Mode.program.check t (Source.Module.top (imports ++ body 2)) =
      [.placedError "PY5002"
        "Only declarations are allowed at program scope; move statements into main()" 10 16] := by
    decide
  refine ⟨himports, haccepted, hrejected, ?_⟩
  rw [Source.Module.programCodes, Source.Module.programCodes, haccepted, hrejected]
  simp

end ProgramCheck

end Playground
