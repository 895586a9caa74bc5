import Playground.Proofs.Diagnostic.Mapper
import Playground.Proofs.Diagnostic.Mapping
import Playground.Proofs.Workspace.Normal
import Playground.Proofs.Workspace.Tiling

/-!
# Faithful diagnostics

Whatever a toolchain reports, the diagnostic that comes of it is about the same part of the text:
of the one buffer that the report starts in, cut off at the end of that buffer.

- `segmentAt?_cases`: where an offset of a merged text can be.
- `Faithful`: what it is for a diagnostic to be faithful to its report.
- `map_faithful`: mapping is faithful to whatever is reported.
- `map_format_faithful`: so is a mapper that was used before, and it can tell what it has mapped.
-/

namespace Playground

/-! ## Places in a merged text -/

section

variable (usings : List String)

/-- The directives stand before every buffer. -/
theorem length_usingLines_le_leading (before : List Buffer) :
    (usingLines usings).length ≤ (leading usings before).length := by
  rw [length_leading]
  exact Nat.le_add_right ..

/-- An offset is outside the text, in the directives, or in a buffer. -/
theorem segmentAt?_cases {buffers : List Buffer} (hne : buffers ≠ []) (o : Int) :
    (((mergeSources usings buffers).sourceMap.segmentAt? o = none ∧
        ¬ (0 ≤ o ∧ o ≤ (mergeSources usings buffers).text.length)) ∨
      ((mergeSources usings buffers).sourceMap.segmentAt? o =
          some ⟨none, 0, (usingLines usings).length⟩ ∧
        0 ≤ o ∧ o < (usingLines usings).length)) ∨
      ∃ before b after, buffers = before ++ b :: after ∧
        (leading usings before).length ≤ o ∧
        o ≤ (leading usings before).length + b.content.length := by
  cases hseg : (mergeSources usings buffers).sourceMap.segmentAt? o with
  | none =>
    refine .inl (.inl ⟨rfl, fun hin => ?_⟩)
    have honce := countP_segments usings o hne
    rw [if_pos hin] at honce
    obtain ⟨s, hs, hcontains⟩ := List.countP_pos_iff.mp (honce ▸ Nat.one_pos)
    exact List.find?_eq_none.mp hseg s hs hcontains
  | some s =>
    have hmem : s ∈ (mergeSources usings buffers).sourceMap.segments :=
      List.mem_of_find?_eq_some hseg
    have hcontains : s.contains o = true :=
      List.find?_some (p := fun s : Segment => s.contains o) hseg
    by_cases hsyn : s.isSynthetic = true
    · obtain rfl := eq_of_mem_of_synthetic usings hmem hsyn
      exact .inl (.inr ⟨rfl, (contains_of_synthetic rfl o).mp hcontains⟩)
    · obtain ⟨before, b, after, hsplit, rfl⟩ := exists_own_of_mem usings hmem hsyn
      exact .inr ⟨before, b, after, hsplit, (contains_ownSegment usings before b o).mp hcontains⟩

/-- A part of a buffer is that part of the merged text. -/
theorem take_drop_own (before : List Buffer) (b : Buffer) (after : List Buffer) {i n : Nat}
    (hn : i + n ≤ b.content.length) :
    (b.content.toList.drop i).take n =
      ((mergeSources usings (before ++ b :: after)).text.toList.drop
        ((leading usings before).length + i)).take n := by
  have hi : i ≤ b.content.toList.length := by
    rw [String.length_toList]
    omega
  have htake : n ≤ (b.content.toList.drop i).length := by
    rw [List.length_drop, String.length_toList]
    omega
  rw [mergeSources_toList, List.append_assoc, ← List.drop_drop, List.drop_left,
    List.drop_append_of_le_length hi, List.take_append_of_le_length htake]

end

namespace Diagnostic

/-! ## Reports and their diagnostics -/

/-- A diagnostic is faithful to its report. -/
structure Faithful (w : Workspace) (r : Report) (d : Diagnostic) : Prop where
  severity : d.severity = r.severity
  id : d.id = r.id
  message : d.message = r.message
  /-- It concerns no buffer, and is empty, iff the report starts outside the text or in the
  directives. -/
  unattributed : (d.bufferId = none ∧ d.start = 0 ∧ d.stop = 0) ↔
    ∃ start, r.start = some start ∧
      (¬ (0 ≤ start ∧ start ≤ w.merged.text.length) ∨
        0 ≤ start ∧ start < (usingLines w.usings).length)
  /-- A report without a start is put at the start of the entry buffer. -/
  unplaced : r.start = none → ∃ b, w.entryBuffer = .ok b ∧ b ∈ w.buffers ∧
    d.bufferId = some b.id ∧ d.start = 0 ∧ d.stop = 0
  /-- Any other concerns the buffer in which it starts, and covers as much of that buffer as the
  report covers of the text before the end of that buffer. -/
  placed : ∀ start, r.start = some start → start ≤ w.merged.text.length →
    (usingLines w.usings).length ≤ start →
      ∃ before b after, w.buffers = before ++ b :: after ∧
        let first : Int := (leading w.usings before).length
        let stop := min (max (r.stop.getD start) start) (first + b.content.length)
        (first ≤ start ∧ start ≤ first + b.content.length) ∧
          d.bufferId = some b.id ∧ d.start ≤ d.stop ∧ d.stop ≤ b.content.length ∧
          (d.start : Int) = start - first ∧ (d.stop : Int) = stop - first ∧
          (b.content.toList.drop d.start).take (d.stop - d.start) =
            (w.merged.text.toList.drop start.toNat).take (stop - start).toNat

variable {w : Workspace} {r : Report}

/-- A report that concerns no buffer. -/
theorem faithful_none {start : Int} (hstart : r.start = some start)
    (hplace : ¬ (0 ≤ start ∧ start ≤ w.merged.text.length) ∨
      0 ≤ start ∧ start < (usingLines w.usings).length) :
    (ofReport r 0 0 none).Faithful w r where
  severity := rfl
  id := rfl
  message := rfl
  unattributed := iff_of_true ⟨rfl, rfl, rfl⟩ ⟨start, hstart, hplace⟩
  unplaced hnone := by rw [hstart] at hnone; cases hnone
  placed other hother hlen hdirectives := by
    obtain rfl : start = other := Option.some.inj (hstart.symm.trans hother)
    omega

/-- A report without a start. -/
theorem faithful_entry {b : Buffer} (hentry : w.entryBuffer = .ok b) (hstart : r.start = none) :
    (ofReport r 0 0 (some b.id)).Faithful w r where
  severity := rfl
  id := rfl
  message := rfl
  unattributed := iff_of_false (fun h => nomatch h.1) fun ⟨_, hsome, _⟩ => by
    rw [hstart] at hsome; cases hsome
  unplaced _ := ⟨b, hentry, Workspace.mem_of_entryBuffer hentry, rfl, rfl, rfl⟩
  placed start hsome := by rw [hstart] at hsome; cases hsome

/-- Wherever a report ends that starts in a buffer, cut off it ends in that buffer and not before
its start. -/
theorem exists_cutOff (first : Nat) {length o : Nat} (ho : o ≤ length) (stop : Int) :
    ∃ n, o + n ≤ length ∧
      min (max stop (first + o : Nat)) (first + length : Nat) = (first + (o + n) : Nat) :=
  ⟨(min (max stop (first + o : Nat)) (first + length : Nat) - (first + o : Nat)).toNat,
    by omega, by omega⟩

/-- A report that starts in a buffer. -/
theorem faithful_own {before : List Buffer} {b : Buffer} {after : List Buffer}
    (hsplit : w.buffers = before ++ b :: after) {start : Int} (hstart : r.start = some start)
    (hfirst : (leading w.usings before).length ≤ start)
    (hlast : start ≤ (leading w.usings before).length + b.content.length) :
    ∃ d, map w r = .ok d ∧ d.Faithful w r := by
  have hmerged : w.merged = mergeSources w.usings (before ++ b :: after) := by
    rw [Workspace.merged, hsplit]
  have hdirectives := length_usingLines_le_leading w.usings before
  have hend := leading_add_length_le w.usings before b after
  rw [← hmerged] at hend
  obtain ⟨o, rfl⟩ : ∃ o : Nat, start = ((leading w.usings before).length + o : Nat) :=
    ⟨(start - (leading w.usings before).length).toNat, by omega⟩
  have ho : o ≤ b.content.length := by omega
  obtain ⟨n, hn, hstop⟩ := exists_cutOff (leading w.usings before).length ho
    (r.stop.getD ((leading w.usings before).length + o : Nat))
  have hlength : (((leading w.usings before).length + (o + n) : Nat) -
      ((leading w.usings before).length : Int)).toNat = o + n := by omega
  have hmap := map_own hsplit ho hstart
  rw [hstop, hlength] at hmap
  rw [Int.natCast_add _ b.content.length] at hstop
  refine ⟨_, hmap, rfl, rfl, rfl, ?_, ?_, ?_⟩
  · refine iff_of_false (fun h => Option.some_ne_none b.id h.1) ?_
    rintro ⟨other, hother, hplace⟩
    obtain rfl := Option.some.inj (hstart.symm.trans hother)
    omega
  · intro hnone
    rw [hstart] at hnone
    cases hnone
  · intro other hother _ _
    obtain rfl := Option.some.inj (hstart.symm.trans hother)
    refine ⟨before, b, after, hsplit, ⟨by omega, by omega⟩, rfl, Nat.le_add_right o n, hn, ?_⟩
    rw [hstop, hmerged]
    have hspan : (((leading w.usings before).length + (o + n) : Nat) -
        ((leading w.usings before).length + o : Nat) : Int).toNat = n := by omega
    refine ⟨?_, ?_, ?_⟩
    · show (o : Int) = _
      omega
    · show ((o + n : Nat) : Int) = _
      omega
    · show (b.content.toList.drop o).take (o + n - o) = _
      rw [hspan, Nat.add_sub_cancel_left]
      exact take_drop_own w.usings before b after hn

/-- Whatever is reported is mapped faithfully. -/
theorem map_faithful (hw : w.WellFormed) (r : Report) :
    ∃ d, map w r = .ok d ∧ d.Faithful w r := by
  cases hstart : r.start with
  | none =>
    obtain ⟨b, hentry⟩ := Workspace.exists_entryBuffer hw.buffers hw.active
    exact ⟨_, map_of_start_none hstart hentry, faithful_entry hentry hstart⟩
  | some start =>
    rcases segmentAt?_cases w.usings hw.buffers start with
      (⟨hseg, hout⟩ | ⟨hseg, hin⟩) | ⟨before, b, after, hsplit, hfirst, hlast⟩
    · exact ⟨_, map_of_outside hstart hseg, faithful_none hstart (.inl hout)⟩
    · exact ⟨_, map_of_synthetic hstart hseg rfl, faithful_none hstart (.inr hin)⟩
    · exact faithful_own hsplit hstart hfirst hlast

/-- What a report is mapped to is faithful to it. -/
theorem faithful_of_map (hw : w.WellFormed) {d : Diagnostic} (hmap : map w r = .ok d) :
    d.Faithful w r := by
  obtain ⟨d', hmap', hfaithful⟩ := map_faithful hw r
  obtain rfl : d = d' := Except.ok.inj (hmap.symm.trans hmap')
  exact hfaithful

/-- Reports are mapped one by one, in order. -/
theorem mapAll_faithful (hw : w.WellFormed) (rs : List Report) :
    ∃ ds, mapAll w rs = .ok ds ∧
      List.Forall₂ (fun r d => map w r = .ok d ∧ d.Faithful w r) rs ds := by
  obtain ⟨b, hentry⟩ := Workspace.exists_entryBuffer hw.buffers hw.active
  obtain ⟨ds, hds, -⟩ := exists_mapAll hentry rs
  exact ⟨ds, hds,
    (Checks.mapM_eq_ok_iff.mp hds).imp fun r d hmap => ⟨hmap, faithful_of_map hw hmap⟩⟩

/-- On a workspace of a request whatever is reported is mapped faithfully, and what it is mapped to
can be told. Neither depends on what the mapper was used for before, or on the reports around it. -/
theorem map_format_faithful {request : Request} {w : Workspace}
    (hw : Workspace.ofRequest request = .ok w) :
    (∀ r, ∃ d line, d.Faithful w r ∧ d.format w = .ok line ∧ ∀ uses,
      (((Mapper.ofWorkspace w).after uses).map r).1 = .ok d ∧
        (((Mapper.ofWorkspace w).after uses).format d).1 = .ok line) ∧
    ∀ rs, ∃ ds, mapAll w rs = .ok ds ∧
      List.Forall₂ (fun r d => map w r = .ok d ∧ d.Faithful w r) rs ds := by
  have hformed := Workspace.wellFormed_of_ofRequest hw
  refine ⟨fun r => ?_, mapAll_faithful hformed⟩
  obtain ⟨b, hentry⟩ := Workspace.exists_entryBuffer hformed.buffers hformed.active
  obtain ⟨d, hmap, hbuffer⟩ := exists_map hentry r
  obtain ⟨line, hline⟩ := exists_format hbuffer
  refine ⟨d, line, faithful_of_map hformed hmap, hline, fun uses => ⟨?_, ?_⟩⟩
  · rw [Mapper.map_after, hmap]
  · rw [Mapper.format_after, hline]

/-- A report that reaches beyond the first of two buffers, once the second has been told of. -/
theorem map_format_faithful_across_buffers :
    let request : Request :=
      { buffers := some [⟨"a", "x = (\r", none⟩, ⟨"b", "y", some 0⟩], usings := some ["math"] }
    let w : Workspace :=
      ⟨"script", [⟨"a", "x = (\r", none⟩, ⟨"b", "y", some 0⟩], ["import math"], [], none⟩
    let r : Report := ⟨"error", "PY1001", "never closed", some 16, some 99⟩
    let d : Diagnostic := ⟨"error", "PY1001", "never closed", 4, 6, some "a"⟩
    let uses : List Mapper.Use :=
      [.format ⟨"warning", "PY2001", "unused", 0, 1, some "b"⟩, .map r, .format d]
    Workspace.ofRequest request = .ok w ∧ d.Faithful w r ∧
      (((Mapper.ofWorkspace w).after uses).map r).1 = .ok d ∧
      (((Mapper.ofWorkspace w).after uses).format d).1 =
        .ok "a(1,5): error PY1001: never closed" := by
  intro request w r d uses
  have hw : Workspace.ofRequest request = .ok w := by decide
  have hmap : map w r = .ok d := by decide
  have hline : d.format w = .ok "a(1,5): error PY1001: never closed" := by decide
  obtain ⟨d', line, hfaithful, hformat, hany⟩ := (map_format_faithful hw).1 r
  obtain rfl : d' = d := Except.ok.inj ((hany []).1.symm.trans hmap)
  obtain rfl : line = _ := Except.ok.inj (hformat.symm.trans hline)
  exact ⟨hw, hfaithful, hany uses⟩

end Diagnostic

end Playground
