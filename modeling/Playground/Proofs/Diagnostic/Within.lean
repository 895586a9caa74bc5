import Playground.Diagnostic.Fault
import Playground.Mode.Program
import Playground.Proofs.Diagnostic.Faithful
import Playground.Proofs.Text.Bytes

/-!
# Reports within a text

Faults, warnings and statements are placed by lines and columns that need not be on the text at all.
What is reported of them stays within the text, and a report that does is attributed to a buffer
unless it starts in the using directives.

- `Report.Within`: what it is for a report to stay within a text.
- `ofFault_within`, `ofWarning_within`, `misplaced_within` and `headSpan_within`: every way to make
  a report from a place does.
- `check_cases`: what a mode can report.
- `Diagnostic.Faithful.bufferId_eq_none_iff`: which reports within a merged text concern no buffer.
-/

namespace Playground

open Text

namespace Report

/-- If a report has a place, it is a part of a text of some length. -/
def Within (r : Report) (length : Nat) : Prop :=
  ∀ start, r.start = some start →
    ∃ stop, r.stop = some stop ∧ 0 ≤ start ∧ start ≤ stop ∧ stop ≤ length

theorem within_of_placed {r : Report} {start stop length : Nat} (hstart : r.start = some ↑start)
    (hstop : r.stop = some ↑stop) (hle : start ≤ stop) (hlength : stop ≤ length) :
    r.Within length := by
  intro other hother
  obtain rfl := Option.some.inj (hstart.symm.trans hother)
  exact ⟨stop, hstop, by omega, by omega, by omega⟩

variable (text : List Char)

/-- A fault is reported within the text, wherever it claims to be. -/
theorem ofFault_within (f : Source.SyntaxFault) :
    (ofFault (.ofText text) f).Within text.length := by
  have hstart := LineTable.offset_le_length text (orOne f.line) (orOne f.offset - 1)
  rw [ofFault]
  refine within_of_placed rfl rfl ?_ ?_
  · split
    · split
      · exact Nat.le_max_right _ _
      · exact Nat.le_refl _
    · exact Nat.le_refl _
  · split
    · split
      · exact Nat.max_le.mpr ⟨LineTable.offset_le_length text _ _, hstart⟩
      · exact hstart
    · exact hstart

/-- A warning is reported within the text, whatever its line is. -/
theorem ofWarning_within (isSyntax : Bool) (message : String) (line : Int) :
    (ofWarning (.ofText text) isSyntax message line).Within text.length :=
  within_of_placed rfl rfl (Nat.le_add_right _ _) (LineTable.offset_add_lineText_le text line)

end Report

/-! ## Reports of modes -/

namespace ProgramCheck

variable {ε σ : Type} (text : List Char)

/-- A statement stands within the text, wherever it claims to be. -/
theorem misplaced_within (s : TopStatement ε σ) :
    (misplaced (.ofText text) s).Within text.length := by
  have hstart := LineTable.offset_le_length text s.place.line
    (charsWithin ((LineTable.ofText text).lineText s.place.line) s.place.column.toNat)
  rw [← LineTable.byteOffset_eq] at hstart
  rw [misplaced, spanOf]
  cases s.place.endColumn with
  | none => exact Report.within_of_placed rfl rfl (Nat.le_refl _) hstart
  | some column =>
    exact Report.within_of_placed rfl rfl (Nat.le_max_left _ _)
      (Nat.max_le.mpr ⟨hstart, LineTable.offset_le_length text _ _⟩)

/-- The head of a definition is a part of the text that it is looked for in. -/
theorem headLength_le (text : List Char) : headLength text ≤ text.length := by
  unfold headLength
  dsimp only
  split
  · exact Nat.zero_le _
  · split
    · exact Nat.sub_le _ _
    · exact Nat.zero_le _

/-- The head of a definition stands within the text, wherever the definition claims to be. -/
theorem headSpan_within (p : Place) :
    (headSpan (.ofText text) p).1 ≤ (headSpan (.ofText text) p).2 ∧
      (headSpan (.ofText text) p).2 ≤ text.length := by
  have hline := LineTable.offset_add_lineText_le text p.line
  have hcolumn := charsWithin_le_length ((LineTable.ofText text).lineText p.line) p.column.toNat
  have hstart := LineTable.offset_le_add (.ofText text) p.line
    (charsWithin ((LineTable.ofText text).lineText p.line) p.column.toNat)
  have hbegin := LineTable.offset_zero_le (.ofText text) p.line
    (charsWithin ((LineTable.ofText text).lineText p.line) p.column.toNat)
  have hhead := headLength_le (((LineTable.ofText text).lineText p.line).drop
    ((LineTable.ofText text).byteOffset p.line p.column - (LineTable.ofText text).offset p.line 0))
  rw [List.length_drop] at hhead
  -- the head is looked for behind the column, so that it ends with the line at the latest
  unfold headSpan
  rw [LineTable.byteOffset_eq] at hhead ⊢
  dsimp only
  omega

end ProgramCheck

namespace Mode

open ProgramCheck

variable {ε σ : Type} {mode : Mode} {t : LineTable} {body : List (TopStatement ε σ)} {r : Report}

/-- What a mode reports is a statement that is no declaration, or what is wrong with the entry
point. -/
theorem check_cases (h : r ∈ mode.check t body) :
    mode = .program ∧
      ((∃ s : TopStatement ε σ, r = misplaced t s) ∨
        (entries body = [] ∧ ∃ message, r = .unplacedError "PY5001" message) ∨
        ∃ message place, r =
          .placedError "PY5001" message (headSpan t place).1 (headSpan t place).2) := by
  cases mode with
  | script => cases h
  | program =>
    refine ⟨rfl, ?_⟩
    rcases List.mem_append.mp h with h | h
    · obtain ⟨s, -, rfl⟩ := List.mem_map.mp h
      exact .inl ⟨s, rfl⟩
    · unfold entryReports at h
      split at h
      · rename_i hnone
        rw [List.mem_singleton.mp h]
        exact .inr (.inl ⟨List.getLast?_eq_none_iff.mp hnone, _, rfl⟩)
      · split at h
        · cases h
        · rw [List.mem_singleton.mp h]
          exact .inr (.inr ⟨_, _, rfl⟩)

/-- All that a mode reports are errors. -/
theorem isError_check (h : r ∈ mode.check t body) : r.isError = true := by
  obtain ⟨-, ⟨s, rfl⟩ | ⟨-, message, rfl⟩ | ⟨message, place, rfl⟩⟩ := check_cases h <;> rfl

/-- All that a mode reports stays within the text. -/
theorem check_within {text : List Char} (h : r ∈ mode.check (.ofText text) body) :
    r.Within text.length := by
  obtain ⟨-, ⟨s, rfl⟩ | ⟨-, message, rfl⟩ | ⟨message, place, rfl⟩⟩ := check_cases h
  · exact misplaced_within text s
  · rintro _ ⟨⟩
  · obtain ⟨hle, hstop⟩ := headSpan_within text place
    exact Report.within_of_placed rfl rfl hle hstop

/-- Only that there is no entry point is reported without a place. -/
theorem check_unplaced (h : r ∈ mode.check t body) (hstart : r.start = none) :
    mode = .program ∧ entries body = [] ∧ r.id = "PY5001" := by
  obtain ⟨hmode, ⟨s, rfl⟩ | ⟨hnone, message, rfl⟩ | ⟨message, place, rfl⟩⟩ := check_cases h
  · cases hstart
  · exact ⟨hmode, hnone, rfl⟩
  · cases hstart

end Mode

/-! ## Attribution -/

/-- A report within the merged text concerns no buffer iff it starts in the directives. -/
theorem Diagnostic.Faithful.bufferId_eq_none_iff {w : Workspace} {r : Report} {d : Diagnostic}
    (h : d.Faithful w r) (hwithin : r.Within w.merged.text.length) :
    d.bufferId = none ↔
      ∃ start, r.start = some start ∧ 0 ≤ start ∧ start < (usingLines w.usings).length := by
  constructor
  · intro hnone
    cases hstart : r.start with
    | none =>
      obtain ⟨b, -, -, hbuffer, -⟩ := h.unplaced hstart
      rw [hnone] at hbuffer
      cases hbuffer
    | some start =>
      obtain ⟨stop, -, hzero, hle, hstop⟩ := hwithin start hstart
      refine ⟨start, rfl, hzero, ?_⟩
      by_contra hbehind
      obtain ⟨_, b, _, -, -, hbuffer, -⟩ := h.placed start hstart (by omega) (by omega)
      rw [hnone] at hbuffer
      cases hbuffer
  · rintro ⟨start, hstart, hin⟩
    exact (h.unattributed.mpr ⟨start, hstart, .inr hin⟩).1

end Playground
