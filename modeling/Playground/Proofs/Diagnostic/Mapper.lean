import Playground.Diagnostic.Mapper

/-!
# The tables of a mapper

A mapper keeps the line tables that it has made. Whatever it was used for, they are those of its
buffers, so that it tells a diagnostic just as a new one does.

- `Sound`: each table that is kept is that of the buffer it is kept for.
- `Sound.step` and `Sound.after`: every use preserves this.
- `format_after`: what a mapper that was used makes of a diagnostic.
-/

namespace Playground.Mapper

open Text

/-- Each table that is kept is that of the buffer it is kept for. -/
def Sound (m : Mapper) : Prop :=
  ∀ id table, m.tables.lookup id = some table →
    ∃ b, m.workspace.buffer id = .ok b ∧ table = .ofText b.content.toList

variable {m : Mapper}

theorem sound_ofWorkspace (w : Workspace) : (ofWorkspace w).Sound :=
  fun _ _ h => nomatch h

/-- The tables of a mapper are those of its buffers, kept or not. -/
theorem Sound.lineTable_fst (hm : m.Sound) (id : String) :
    (m.lineTable id).1 =
      (m.workspace.buffer id).map fun b => LineTable.ofText b.content.toList := by
  unfold lineTable
  cases hkept : m.tables.lookup id with
  | some table =>
    obtain ⟨b, hb, rfl⟩ := hm id table hkept
    rw [hb]
    rfl
  | none => cases m.workspace.buffer id <;> rfl

/-- A table that is new is kept for its own buffer. -/
theorem Sound.lineTable_snd (hm : m.Sound) (id : String) :
    (m.lineTable id).2.Sound ∧ (m.lineTable id).2.workspace = m.workspace := by
  unfold lineTable
  cases m.tables.lookup id with
  | some table => exact ⟨hm, rfl⟩
  | none =>
    cases hb : m.workspace.buffer id with
    | error missing => exact ⟨hm, rfl⟩
    | ok b =>
      refine ⟨fun other table h => ?_, rfl⟩
      by_cases hid : other = id
      · subst hid
        rw [List.lookup_cons_self] at h
        exact ⟨b, hb, (Option.some.inj h).symm⟩
      · have hne : (other == id) = false := by simpa using hid
        rw [List.lookup_cons, hne] at h
        exact hm other table h

theorem Sound.location_fst (hm : m.Sound) (d : Diagnostic) :
    (m.location d).1 = d.location m.workspace := by
  unfold location Diagnostic.location
  cases d.bufferId with
  | none => rfl
  | some id =>
    show (m.lineTable id).1.map _ = (m.workspace.buffer id).map _
    rw [hm.lineTable_fst]
    cases m.workspace.buffer id <;> rfl

theorem Sound.location_snd (hm : m.Sound) (d : Diagnostic) :
    (m.location d).2.Sound ∧ (m.location d).2.workspace = m.workspace := by
  unfold location
  cases d.bufferId with
  | none => exact ⟨hm, rfl⟩
  | some id => exact hm.lineTable_snd id

/-- A mapper tells a diagnostic as if it had kept no tables. -/
theorem Sound.format_fst (hm : m.Sound) (d : Diagnostic) :
    (m.format d).1 = d.format m.workspace := by
  show (m.location d).1.map _ = _
  rw [hm.location_fst]
  rfl

/-- A use of a mapper changes neither its workspace nor what its tables are. -/
theorem Sound.step (hm : m.Sound) (u : Use) :
    (m.step u).Sound ∧ (m.step u).workspace = m.workspace := by
  cases u with
  | map r => exact ⟨hm, rfl⟩
  | format d => exact hm.location_snd d

/-- Neither do some uses, one after the other. -/
theorem Sound.after (hm : m.Sound) (uses : List Use) :
    (m.after uses).Sound ∧ (m.after uses).workspace = m.workspace := by
  induction uses generalizing m with
  | nil => exact ⟨hm, rfl⟩
  | cons u uses ih =>
    obtain ⟨hstep, hsame⟩ := hm.step u
    obtain ⟨hafter, hrest⟩ := ih hstep
    exact ⟨hafter, hrest.trans hsame⟩

/-- Whatever a mapper was used for, it maps a report as a new one does. -/
theorem map_after (w : Workspace) (uses : List Use) (r : Report) :
    (((ofWorkspace w).after uses).map r).1 = Diagnostic.map w r := by
  have hsame := ((sound_ofWorkspace w).after uses).2
  show Diagnostic.map ((ofWorkspace w).after uses).workspace r = _
  rw [hsame]
  rfl

/-- Whatever a mapper was used for, it tells a diagnostic as a new one does. -/
theorem format_after (w : Workspace) (uses : List Use) (d : Diagnostic) :
    (((ofWorkspace w).after uses).format d).1 = d.format w := by
  obtain ⟨hsound, hsame⟩ := (sound_ofWorkspace w).after uses
  rw [hsound.format_fst, hsame]
  rfl

end Playground.Mapper
