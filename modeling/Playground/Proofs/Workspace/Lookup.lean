import Mathlib.Data.List.Nodup
import Playground.Workspace.Basic

/-!
# Looking up buffers

The buffers that a workspace names: by an identifier, and as the one that a request is about.
-/

namespace Playground.Workspace

variable {w : Workspace}

/-- The buffer of an identifier that one of the buffers has. -/
theorem exists_buffer_of_mem {b : Buffer} (hb : b ∈ w.buffers) :
    ∃ c, w.buffer b.id = .ok c ∧ c ∈ w.buffers ∧ c.id = b.id := by
  unfold buffer
  cases hfind : w.buffers.find? fun c => c.id == b.id with
  | none => exact absurd (beq_self_eq_true b.id) (List.find?_eq_none.mp hfind b hb)
  | some c => exact ⟨c, rfl, List.mem_of_find?_eq_some hfind, by simpa using List.find?_some hfind⟩

/-- With distinct identifiers, that buffer itself. -/
theorem buffer_of_mem (hids : (w.buffers.map (·.id)).Nodup) {b : Buffer} (hb : b ∈ w.buffers) :
    w.buffer b.id = .ok b := by
  obtain ⟨c, hc, hmem, hid⟩ := exists_buffer_of_mem hb
  rw [hc, List.inj_on_of_nodup_map hids hmem hb hid]

/-- The entry buffer is one of the buffers. -/
theorem mem_of_entryBuffer {b : Buffer} (h : w.entryBuffer = .ok b) : b ∈ w.buffers := by
  unfold entryBuffer at h
  split at h
  · next id _ =>
    unfold buffer at h
    split at h
    · next c hfind => exact Except.ok.inj h ▸ List.mem_of_find?_eq_some hfind
    · cases h
  · split at h
    · next c hfind =>
      rw [← Except.ok.inj h]
      rcases Option.or_eq_some_iff.mp hfind with hfirst | ⟨-, hhead⟩
      · exact List.mem_of_find?_eq_some hfirst
      · exact List.mem_of_mem_head? hhead
    · cases h

/-- The buffer that a workspace is about: the active one, else the first with a cursor, else the
first. -/
structure IsEntry (w : Workspace) (b : Buffer) : Prop where
  mem : b ∈ w.buffers
  active : ∀ id, w.activeId = some id → b.id = id
  inactive : w.activeId = none →
    (∃ before after, w.buffers = before ++ b :: after ∧ b.position.isSome = true ∧
      ∀ c ∈ before, c.position = none) ∨
    ((∀ c ∈ w.buffers, c.position = none) ∧ w.buffers.head? = some b)

/-- The entry buffer is the one that the workspace is about. -/
theorem isEntry_of_entryBuffer {b : Buffer} (h : w.entryBuffer = .ok b) : w.IsEntry b := by
  refine ⟨mem_of_entryBuffer h, fun id hid => ?_, fun hnone => ?_⟩
  · have hbuffer : w.buffer id = .ok b := by
      rw [entryBuffer, hid] at h
      exact h
    unfold buffer at hbuffer
    split at hbuffer
    · next c hfind =>
      cases hbuffer
      simpa using List.find?_some hfind
    · cases hbuffer
  · have hfind : (w.buffers.find? fun b => b.position.isSome).or w.buffers.head? = some b := by
      rw [entryBuffer, hnone] at h
      dsimp only at h
      split at h
      · next c hfind => rw [hfind, Except.ok.inj h]
      · cases h
    rcases Option.or_eq_some_iff.mp hfind with hfirst | ⟨hfirst, hhead⟩
    · obtain ⟨hposition, before, after, hsplit, hbefore⟩ :=
        List.find?_eq_some_iff_append.mp hfirst
      exact .inl ⟨before, after, hsplit, hposition, fun c hc => by simpa using hbefore c hc⟩
    · exact .inr ⟨fun c hc => by simpa using List.find?_eq_none.mp hfirst c hc, hhead⟩

/-- There is an entry buffer as soon as there is any, and the active one is among them. -/
theorem exists_entryBuffer (hne : w.buffers ≠ [])
    (hactive : ∀ id, w.activeId = some id → id ∈ w.buffers.map (·.id)) :
    ∃ b, w.entryBuffer = .ok b := by
  unfold entryBuffer
  split
  · next id hid =>
    obtain ⟨b, hb, rfl⟩ := List.mem_map.mp (hactive id hid)
    obtain ⟨c, hc, -, -⟩ := exists_buffer_of_mem hb
    exact ⟨c, hc⟩
  · obtain ⟨b, bs, hbs⟩ := List.exists_cons_of_ne_nil hne
    rw [hbs, List.head?_cons]
    cases (b :: bs).find? fun b => b.position.isSome with
    | none => exact ⟨b, rfl⟩
    | some c => exact ⟨c, rfl⟩

end Playground.Workspace
