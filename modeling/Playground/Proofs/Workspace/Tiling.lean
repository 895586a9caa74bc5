import Mathlib.Data.List.Nodup
import Playground.Proofs.Workspace.Layout

/-!
# Tiling

The source map of a merged text tiles it: every offset has one segment, and the segments stand in
the order of what they cover. With distinct identifiers the map therefore translates both ways
between the offsets of buffers and those of the merged text.

- `Tiles` says what it takes to tile a text, `Translates` what it takes to translate.
- `mergeSources_tiles_translates`: merging does both.
-/

namespace Playground

/-- The segments of buffers. -/
def SourceMap.placed (m : SourceMap) : List Segment :=
  m.segments.filter fun s => !s.isSynthetic

namespace MergedSource

/-- A map that tiles the text of using directives and buffers. -/
structure Tiles (m : MergedSource) (usings : List String) (buffers : List Buffer) : Prop where
  /-- Every offset of the text, its end included, has one segment, and nothing else has any. -/
  once : ∀ o : Int, m.sourceMap.segments.countP (fun s => s.contains o) =
    if 0 ≤ o ∧ o ≤ m.text.length then 1 else 0
  ordered : m.sourceMap.segments.Pairwise fun s t => s.stop ≤ t.start
  /-- There is a synthetic segment iff there are directives. -/
  synthetic : (∃ s ∈ m.sourceMap.segments, s.isSynthetic = true) ↔ usings ≠ []
  /-- It covers the directives, each with a line feed at its end. -/
  directives : ∀ s ∈ m.sourceMap.segments, s.isSynthetic = true →
    s.start = 0 ∧ s.stop = (usings.flatMap fun u => u.toList ++ ['\n']).length ∧
      s.cut m.text.toList = usings.flatMap fun u => u.toList ++ ['\n']
  /-- The other segments are those of the buffers, in order, and cover just their contents. -/
  contents : List.Forall₂ (fun s b => s.bufferId = some b.id ∧
    s.stop = s.start + b.content.length ∧ s.cut m.text.toList = b.content.toList)
    m.sourceMap.placed buffers
  /-- Between two buffers there is one line feed. -/
  separated : m.sourceMap.placed.IsChain fun s t =>
    t.start = s.stop + 1 ∧ m.text.toList[s.stop]? = some '\n'

/-- A map that translates between the offsets of buffers and those of the merged text. -/
structure Translates (m : MergedSource) (buffers : List Buffer) : Prop where
  /-- An offset of a buffer, its end included, is found again in the buffer's own segment, at the
  same distance from its start and with the same character. -/
  forth : ∀ b ∈ buffers, ∀ o ≤ b.content.length, ∃ (s : Segment) (n : Int),
    m.sourceMap.segmentFor b.id = .ok s ∧ s.bufferId = some b.id ∧
      s.cut m.text.toList = b.content.toList ∧
      m.sourceMap.toMerged b.id o = .ok n ∧ m.sourceMap.segmentAt? n = some s ∧
      n - s.start = o ∧
      (o < b.content.length → m.text.toList[n.toNat]? = b.content.toList[o]?)
  /-- An offset of the merged text outside the directives comes from one offset of one buffer. -/
  back : ∀ n : Int, 0 ≤ n → n ≤ m.text.length →
    (∀ s ∈ m.sourceMap.segments, s.isSynthetic = true → ¬ s.contains n = true) →
    ∃! p : Buffer × Nat, p.1 ∈ buffers ∧ p.2 ≤ p.1.content.length ∧
      m.sourceMap.toMerged p.1.id p.2 = .ok n

end MergedSource

variable (usings : List String)

/-! ## Tiling -/

/-- The contents of buffers with separators between them. -/
def joined (buffers : List Buffer) : List Char :=
  ['\n'].intercalate (buffers.map fun b => b.content.toList)

theorem joined_cons_cons (b c : Buffer) (rest : List Buffer) :
    joined (b :: c :: rest) = b.content.toList ++ '\n' :: joined (c :: rest) := by
  simp [joined]

theorem mergeSources_toList_joined (buffers : List Buffer) :
    (mergeSources usings buffers).text.toList = (usingLines usings).toList ++ joined buffers := by
  show (usingLines usings ++ "\n".intercalate _).toList = _
  rw [String.toList_append, String.toList_intercalate, List.map_map]
  rfl

theorem length_mergeSources (buffers : List Buffer) :
    (mergeSources usings buffers).text.length =
      (usingLines usings).length + (joined buffers).length := by
  rw [← String.length_toList, mergeSources_toList_joined, List.length_append, String.length_toList]

/-- Buffers laid out from an offset on cover everything up to the end of the last one, once. -/
theorem countP_bufferSegments (o : Int) :
    ∀ (start : Nat) (b : Buffer) (rest : List Buffer),
      (bufferSegments start (b :: rest)).countP (fun s => s.contains o) =
        if start ≤ o ∧ o ≤ (start + (joined (b :: rest)).length : Nat) then 1 else 0
  | start, b, [] => by
    have hone : joined [b] = b.content.toList := by simp [joined]
    rw [bufferSegments, bufferSegments, List.countP_singleton, hone, String.length_toList]
    simp only [contains_of_not_synthetic (s := ⟨some b.id, start, start + b.content.length⟩) rfl]
  | start, b, c :: rest => by
    have ih := countP_bufferSegments o (start + b.content.length + 1) c rest
    have hlen : (joined (b :: c :: rest)).length =
        b.content.length + 1 + (joined (c :: rest)).length := by
      rw [joined_cons_cons, List.length_append, String.length_toList, List.length_cons]
      omega
    rw [bufferSegments, List.countP_cons, ih, hlen]
    simp only [contains_of_not_synthetic (s := ⟨some b.id, start, start + b.content.length⟩) rfl]
    -- the separator keeps the end of `b` and the start of the next buffer apart
    split <;> split <;> split <;> omega

theorem usingLines_eq_nil_iff : (usingLines usings).length = 0 ↔ usings = [] := by
  rw [← String.length_toList, toList_usingLines]
  cases usings <;> simp

/-- The directives cover what comes before the first buffer, once. -/
theorem countP_scaffolding (o : Int) :
    (scaffolding usings).countP (fun s => s.contains o) =
      if 0 ≤ o ∧ o < (usingLines usings).length then 1 else 0 := by
  have hzero := usingLines_eq_nil_iff usings
  unfold scaffolding
  split
  · next h =>
    rw [hzero.mpr (List.isEmpty_iff.mp h), List.countP_nil, if_neg (by omega)]
  · rw [List.countP_singleton]
    simp only [contains_of_synthetic (s := ⟨none, 0, (usingLines usings).length⟩) rfl]
    rfl

/-- Every offset of a merged text has one segment, and nothing else has any. -/
theorem countP_segments (o : Int) {buffers : List Buffer} (hne : buffers ≠ []) :
    (mergeSources usings buffers).sourceMap.segments.countP (fun s => s.contains o) =
      if 0 ≤ o ∧ o ≤ (mergeSources usings buffers).text.length then 1 else 0 := by
  obtain ⟨b, rest, rfl⟩ := List.exists_cons_of_ne_nil hne
  show (scaffolding usings ++ bufferSegments (usingLines usings).length (b :: rest)).countP _ = _
  rw [List.countP_append, countP_scaffolding, countP_bufferSegments, length_mergeSources]
  -- the directives are half-open, so their end is left to the first buffer
  split <;> split <;> split <;> omega

theorem bufferSegments_pairwise (start : Nat) (buffers : List Buffer) :
    (bufferSegments start buffers).Pairwise fun s t => s.stop ≤ t.start := by
  induction buffers generalizing start with
  | nil => exact .nil
  | cons b rest ih =>
    refine .cons (fun t ht => ?_) (ih _)
    have := (of_mem_bufferSegments ht).2.1
    show start + b.content.length ≤ t.start
    omega

theorem segments_pairwise (buffers : List Buffer) :
    (mergeSources usings buffers).sourceMap.segments.Pairwise fun s t => s.stop ≤ t.start := by
  show (scaffolding usings ++ bufferSegments (usingLines usings).length buffers).Pairwise _
  refine List.pairwise_append.mpr ⟨?_, bufferSegments_pairwise _ _, fun s hs t ht => ?_⟩
  · unfold scaffolding
    split
    · exact .nil
    · exact List.pairwise_singleton _ _
  · rw [of_mem_scaffolding usings hs]
    exact (of_mem_bufferSegments ht).2.1

/-- The segments of buffers are all but the scaffolding. -/
theorem placed_mergeSources (buffers : List Buffer) :
    (mergeSources usings buffers).sourceMap.placed =
      bufferSegments (usingLines usings).length buffers := by
  have hown : ∀ s ∈ bufferSegments (usingLines usings).length buffers,
      (!s.isSynthetic) = true := by
    intro s hs
    rw [(of_mem_bufferSegments hs).1]
    rfl
  show (scaffolding usings ++ _).filter _ = _
  rw [List.filter_append, List.filter_eq_self.mpr hown]
  unfold scaffolding
  split <;> rfl

theorem cut_append_left (front text back : List Char) (s : Segment) (hs : s.start = front.length)
    (ht : s.stop = front.length + text.length) : s.cut (front ++ (text ++ back)) = text := by
  rw [Segment.cut, hs, ht, List.drop_left, Nat.add_sub_cancel_left, List.take_left]

/-- A text behind a buffer and its separator begins so much later. -/
theorem length_append_separator (front : List Char) (b : Buffer) :
    (front ++ b.content.toList ++ ['\n']).length = front.length + b.content.length + 1 := by
  rw [List.length_append, List.length_append, String.length_toList, List.length_singleton]

/-- The segments of buffers laid out behind a text cover just the contents of the buffers. The
induction moves a buffer and its separator to the text in front. -/
theorem bufferSegments_contents :
    ∀ (front : List Char) (buffers : List Buffer),
      List.Forall₂ (fun s b => s.bufferId = some b.id ∧ s.stop = s.start + b.content.length ∧
        s.cut (front ++ joined buffers) = b.content.toList)
        (bufferSegments front.length buffers) buffers
  | _, [] => .nil
  | front, [b] => by
    refine .cons ⟨rfl, rfl, ?_⟩ .nil
    rw [show joined [b] = b.content.toList ++ [] by simp [joined]]
    exact cut_append_left front _ _ _ rfl (by rw [String.length_toList])
  | front, b :: c :: rest => by
    have ih := bufferSegments_contents (front ++ b.content.toList ++ ['\n']) (c :: rest)
    rw [length_append_separator, List.append_assoc, List.append_assoc] at ih
    rw [joined_cons_cons]
    refine .cons ⟨rfl, rfl, ?_⟩ ih
    exact cut_append_left front _ _ _ rfl (by rw [String.length_toList])

/-- Between two buffers laid out behind a text there is one line feed. -/
theorem bufferSegments_separated :
    ∀ (front : List Char) (buffers : List Buffer),
      (bufferSegments front.length buffers).IsChain fun s t =>
        t.start = s.stop + 1 ∧ (front ++ joined buffers)[s.stop]? = some '\n'
  | _, [] => .nil
  | _, [_] => .singleton _
  | front, b :: c :: rest => by
    have ih := bufferSegments_separated (front ++ b.content.toList ++ ['\n']) (c :: rest)
    rw [length_append_separator, List.append_assoc, List.append_assoc] at ih
    rw [joined_cons_cons]
    refine .cons_cons ⟨rfl, ?_⟩ ih
    show (front ++ (b.content.toList ++ '\n' :: joined (c :: rest)))[front.length + _]? = _
    rw [List.getElem?_append_right (Nat.le_add_right _ _), Nat.add_sub_cancel_left,
      ← String.length_toList, List.getElem?_append_right le_rfl, Nat.sub_self]
    rfl

theorem exists_synthetic_iff (buffers : List Buffer) :
    (∃ s ∈ (mergeSources usings buffers).sourceMap.segments, s.isSynthetic = true) ↔
      usings ≠ [] := by
  show (∃ s ∈ scaffolding usings ++ bufferSegments _ buffers, _) ↔ _
  constructor
  · rintro ⟨s, hs, hsyn⟩ rfl
    rw [(of_mem_bufferSegments hs).1] at hsyn
    cases hsyn
  · intro hne
    refine ⟨⟨none, 0, (usingLines usings).length⟩, List.mem_append_left _ ?_, rfl⟩
    rw [scaffolding, if_neg (by simpa using hne)]
    exact List.mem_singleton.mpr rfl

/-- The synthetic segment covers the lines of the directives. -/
theorem eq_of_mem_of_synthetic {buffers : List Buffer} {s : Segment}
    (hs : s ∈ (mergeSources usings buffers).sourceMap.segments) (hsyn : s.isSynthetic = true) :
    s = ⟨none, 0, (usingLines usings).length⟩ := by
  rcases List.mem_append.mp hs with hs | hs
  · exact of_mem_scaffolding usings hs
  · rw [(of_mem_bufferSegments hs).1] at hsyn
    cases hsyn

/-- Merging lays out a text together with a map that tiles it. -/
theorem mergeSources_tiles {buffers : List Buffer} (hne : buffers ≠ []) :
    (mergeSources usings buffers).Tiles usings buffers where
  once o := countP_segments usings o hne
  ordered := segments_pairwise usings buffers
  synthetic := exists_synthetic_iff usings buffers
  directives s hs hsyn := by
    rw [eq_of_mem_of_synthetic usings hs hsyn, mergeSources_toList_joined, ← toList_usingLines,
      String.length_toList]
    refine ⟨rfl, rfl, ?_⟩
    exact cut_append_left [] _ _ _ rfl (by rw [String.length_toList]; exact (Nat.zero_add _).symm)
  contents := by
    have h := bufferSegments_contents (usingLines usings).toList buffers
    rw [String.length_toList] at h
    rw [placed_mergeSources, mergeSources_toList_joined]
    exact h
  separated := by
    have h := bufferSegments_separated (usingLines usings).toList buffers
    rw [String.length_toList] at h
    rw [placed_mergeSources, mergeSources_toList_joined]
    exact h

/-! ## Translating -/

/-- With distinct identifiers, the segment of an identifier is that of its buffer. -/
theorem segmentFor_own {before after : List Buffer} {b : Buffer}
    (hids : ((before ++ b :: after).map (·.id)).Nodup) :
    (mergeSources usings (before ++ b :: after)).sourceMap.segmentFor b.id =
      .ok (ownSegment usings before b) := by
  have hother : ∀ c ∈ before, c.id ≠ b.id := by
    intro c hc
    rw [List.map_append, List.map_cons] at hids
    exact (List.nodup_append.mp hids).2.2 _ (List.mem_map_of_mem hc) _ List.mem_cons_self
  have hbefore : (scaffolding usings ++ bufferSegments (usingLines usings).length before).find?
      (fun s => s.bufferId == some b.id) = none := by
    refine List.find?_eq_none.mpr fun s hs => ?_
    rcases List.mem_append.mp hs with hs | hs
    · rw [of_mem_scaffolding usings hs]
      exact fun h => nomatch h
    · obtain ⟨front, c, back, rfl, hid, -, -⟩ := exists_split_of_mem_bufferSegments hs
      rw [hid]
      simpa using hother c (by simp)
  have hown : ((ownSegment usings before b).bufferId == some b.id) = true := beq_self_eq_true _
  rw [SourceMap.segmentFor, mergeSources_segments, List.find?_append, hbefore, Option.none_or,
    List.find?_cons_of_pos (p := fun s : Segment => s.bufferId == some b.id) hown]

theorem toMerged_own {before after : List Buffer} {b : Buffer}
    (hids : ((before ++ b :: after).map (·.id)).Nodup) (o : Int) :
    (mergeSources usings (before ++ b :: after)).sourceMap.toMerged b.id o =
      .ok ((leading usings before).length + o) := by
  rw [SourceMap.toMerged, segmentFor_own usings hids]
  rfl

/-- With distinct identifiers, the map of a merged text translates both ways. -/
theorem mergeSources_translates {buffers : List Buffer} (hne : buffers ≠ [])
    (hids : (buffers.map (·.id)).Nodup) : (mergeSources usings buffers).Translates buffers where
  forth b hb o ho := by
    obtain ⟨before, after, rfl⟩ := List.append_of_mem hb
    have htext := mergeSources_toList usings before b after
    rw [List.append_assoc] at htext
    refine ⟨ownSegment usings before b, (leading usings before).length + o,
      segmentFor_own usings hids, rfl, ?_, toMerged_own usings hids o,
      segmentAt?_own usings before b after (by omega) (by omega), ?_, fun hlt => ?_⟩
    · rw [htext]
      exact cut_append_left _ _ _ _ rfl (by rw [String.length_toList]; rfl)
    · show (((leading usings before).length : Int) + o) - (leading usings before).length = o
      omega
    · rw [htext, ← Int.natCast_add, Int.toNat_natCast,
        List.getElem?_append_right (Nat.le_add_right _ _), Nat.add_sub_cancel_left,
        List.getElem?_append_left (by rwa [String.length_toList])]
  back n hn hlen hout := by
    have honce := countP_segments usings n hne
    rw [if_pos ⟨hn, hlen⟩] at honce
    obtain ⟨s, hs, hn⟩ := List.countP_pos_iff.mp (honce ▸ Nat.one_pos)
    obtain ⟨before, b, after, rfl, rfl⟩ :=
      exists_own_of_mem usings hs fun hsyn => hout s hs hsyn hn
    obtain ⟨hstart, hstop⟩ := (contains_ownSegment usings before b n).mp hn
    have hmerged : (leading usings before).length +
        ((n - (leading usings before).length).toNat : Int) = n := by omega
    refine ⟨(b, (n - (leading usings before).length).toNat), ⟨by simp, ?_, ?_⟩, ?_⟩
    · show (n - _).toNat ≤ b.content.length
      omega
    · rw [toMerged_own usings hids, hmerged]
    · rintro ⟨c, o⟩ ⟨hc, ho, hto⟩
      -- the segment that is found at `n` is the own one of both buffers
      obtain ⟨before', after', hsplit⟩ := List.append_of_mem hc
      have hown := segmentAt?_own usings before b after hstart hstop
      rw [hsplit] at hids hto hown
      rw [toMerged_own usings hids] at hto
      have hn' : (leading usings before').length + (o : Int) = n := Except.ok.inj hto
      have ho' : o ≤ c.content.length := ho
      rw [segmentAt?_own usings before' c after' (o := n) (by omega) (by omega)] at hown
      have hseg := Segment.mk.inj (Option.some.inj hown)
      have hid : c.id = b.id := Option.some.inj hseg.1
      have hcb : c = b := List.inj_on_of_nodup_map hids (by simp) (hsplit ▸ by simp) hid
      refine Prod.ext hcb ?_
      show o = (n - _).toNat
      omega

/-- Merging lays out a text together with a map that tiles it, and that translates both ways once
identifiers are distinct. -/
theorem mergeSources_tiles_translates {buffers : List Buffer} (hne : buffers ≠ []) :
    (mergeSources usings buffers).Tiles usings buffers ∧
      ((buffers.map (·.id)).Nodup → (mergeSources usings buffers).Translates buffers) :=
  ⟨mergeSources_tiles usings hne, mergeSources_translates usings hne⟩

/-- A buffer that ends in a line feed, and an empty one after it. -/
theorem mergeSources_line_and_empty :
    let buffers : List Buffer := [⟨"main.py", "x = 1\n", none⟩, ⟨"", "", some 0⟩]
    buffers ≠ [] ∧ (buffers.map (·.id)).Nodup ∧
      (mergeSources ["import math"] buffers).Tiles ["import math"] buffers ∧
      (mergeSources ["import math"] buffers).Translates buffers := by
  intro buffers
  have hne : buffers ≠ [] := List.cons_ne_nil _ _
  have hids : (buffers.map (·.id)).Nodup := by decide
  obtain ⟨htiles, htranslates⟩ := mergeSources_tiles_translates ["import math"] hne
  exact ⟨hne, hids, htiles, htranslates hids⟩

end Playground
