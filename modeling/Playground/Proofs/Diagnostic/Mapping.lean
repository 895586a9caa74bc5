import Playground.Diagnostic.Mapping
import Playground.Proofs.Checks
import Playground.Proofs.Workspace.Layout
import Playground.Proofs.Workspace.Lookup

/-!
# What mapping yields

One lemma for each way in which a report is mapped, and what follows for all reports: mapping needs
nothing but an entry buffer, and what it yields can be formatted.
-/

namespace Playground

namespace Diagnostic

variable {w : Workspace}

/-- A report without a place goes to the start of the entry buffer. -/
theorem map_of_start_none {r : Report} {b : Buffer} (hstart : r.start = none)
    (hentry : w.entryBuffer = .ok b) : map w r = .ok (ofReport r 0 0 (some b.id)) := by
  rw [map, hstart]
  show w.entryBuffer.map _ = _
  rw [hentry]
  rfl

/-- A report in a buffer is moved to it, and cut off at its end. -/
theorem map_of_segmentAt {r : Report} {start : Int} {s : Segment} (hstart : r.start = some start)
    (hseg : w.merged.sourceMap.segmentAt? start = some s) (hsyn : s.isSynthetic = false) :
    map w r = .ok (ofReport r (start - s.start).toNat
      (min (max (r.stop.getD start) start) s.stop - s.start).toNat s.bufferId) := by
  simp [map, hstart, hseg, hsyn]

/-- A report in the directives concerns no buffer. -/
theorem map_of_synthetic {r : Report} {start : Int} {s : Segment} (hstart : r.start = some start)
    (hseg : w.merged.sourceMap.segmentAt? start = some s) (hsyn : s.isSynthetic = true) :
    map w r = .ok (ofReport r 0 0 none) := by
  simp [map, hstart, hseg, hsyn]

/-- A report outside the text concerns no buffer either. -/
theorem map_of_outside {r : Report} {start : Int} (hstart : r.start = some start)
    (hseg : w.merged.sourceMap.segmentAt? start = none) : map w r = .ok (ofReport r 0 0 none) := by
  simp [map, hstart, hseg]

/-- A report that starts at an offset of a buffer, its end included, is told by that offset; where
it ends is cut off at the end of the buffer. -/
theorem map_own {before : List Buffer} {b : Buffer} {after : List Buffer}
    (hsplit : w.buffers = before ++ b :: after) {r : Report} {o : Nat} (ho : o ≤ b.content.length)
    (hstart : r.start = some (((leading w.usings before).length + o : Nat) : Int)) :
    map w r = .ok (ofReport r o
      (min (max (r.stop.getD ((leading w.usings before).length + o : Nat))
          ((leading w.usings before).length + o : Nat))
        ((leading w.usings before).length + b.content.length : Nat) -
          (leading w.usings before).length).toNat
      (some b.id)) := by
  have hseg : w.merged.sourceMap.segmentAt? (((leading w.usings before).length + o : Nat) : Int) =
      some (ownSegment w.usings before b) := by
    rw [Workspace.merged, hsplit]
    exact segmentAt?_own w.usings before b after (by omega) (by omega)
  have ho' : (((leading w.usings before).length + o : Nat) -
      ((ownSegment w.usings before b).start : Int)).toNat = o := by
    show (((leading w.usings before).length + o : Nat) -
      ((leading w.usings before).length : Int)).toNat = o
    omega
  rw [map_of_segmentAt hstart hseg rfl, ho']
  rfl

/-- Mapping needs nothing but an entry buffer, and whatever it attributes has a buffer. -/
theorem exists_map {b : Buffer} (hentry : w.entryBuffer = .ok b) (r : Report) :
    ∃ d, map w r = .ok d ∧ ∀ id, d.bufferId = some id → ∃ c ∈ w.buffers, c.id = id := by
  cases hstart : r.start with
  | none =>
    refine ⟨_, map_of_start_none hstart hentry, fun id hid => ?_⟩
    exact ⟨b, Workspace.mem_of_entryBuffer hentry, Option.some.inj hid⟩
  | some start =>
    cases hseg : w.merged.sourceMap.segmentAt? start with
    | none => exact ⟨_, map_of_outside hstart hseg, fun id hid => nomatch hid⟩
    | some s =>
      by_cases hsyn : s.isSynthetic = true
      · exact ⟨_, map_of_synthetic hstart hseg hsyn, fun id hid => nomatch hid⟩
      · refine ⟨_, map_of_segmentAt hstart hseg (by simpa using hsyn), fun id hid => ?_⟩
        have hmem : s ∈ w.merged.sourceMap.segments := List.mem_of_find?_eq_some hseg
        obtain ⟨before, c, after, hsplit, rfl⟩ := exists_own_of_mem w.usings hmem hsyn
        exact ⟨c, by rw [hsplit]; simp, Option.some.inj hid⟩

/-- What is attributed to a buffer, or to none, can be formatted. -/
theorem exists_format {d : Diagnostic}
    (hid : ∀ id, d.bufferId = some id → ∃ c ∈ w.buffers, c.id = id) :
    ∃ line, d.format w = .ok line := by
  cases hbuffer : d.bufferId with
  | none =>
    rw [format, location, hbuffer]
    exact ⟨_, rfl⟩
  | some id =>
    obtain ⟨c, hc, rfl⟩ := hid id hbuffer
    obtain ⟨c', hc', -, -⟩ := Workspace.exists_buffer_of_mem hc
    rw [format, location, hbuffer]
    show ∃ line, ((w.buffer c.id).map _).map _ = _
    rw [hc']
    exact ⟨_, rfl⟩

/-- All reports are mapped, and what they are mapped to can be formatted. -/
theorem exists_mapAll {b : Buffer} (hentry : w.entryBuffer = .ok b) (rs : List Report) :
    ∃ ds, mapAll w rs = .ok ds ∧ ∀ d ∈ ds, ∃ line, d.format w = .ok line := by
  refine Checks.exists_mapM fun r _ => ?_
  obtain ⟨d, hd, hid⟩ := exists_map hentry r
  exact ⟨d, hd, exists_format hid⟩

end Diagnostic

end Playground
