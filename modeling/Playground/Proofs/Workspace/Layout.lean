import Mathlib.Data.List.Chain
import Playground.Proofs.Text.LineTable
import Playground.Workspace.SourceMap

/-!
# The layout of a merged text

A merged text, seen from one of its buffers: what stands before the buffer, the buffer, and what
stands after it.

- `mergeSources_toList`: the text is those three parts.
- `mergeSources_segments`: so is the list of segments.
- `segmentAt?_own`: every offset from the start to the end of a buffer is found in the segment of
  that buffer, however many others there are.
- `exists_own_of_mem`: every segment is that of the directives or that of a buffer.
-/

namespace Playground

variable (usings : List String)

/-- What stands before a buffer: the lines of the using directives, and the buffers before it, with
a separator after each. -/
def leading (before : List Buffer) : List Char :=
  (usingLines usings).toList ++ before.flatMap fun b => b.content.toList ++ ['\n']

/-- What stands after a buffer: the buffers after it, with a separator before each. -/
def trailing (after : List Buffer) : List Char :=
  after.flatMap fun b => '\n' :: b.content.toList

/-- The segment of the directives, if there are any. -/
def scaffolding : List Segment :=
  if usings.isEmpty then [] else [⟨none, 0, (usingLines usings).length⟩]

/-- The segment of a buffer that comes after some others. -/
def ownSegment (before : List Buffer) (b : Buffer) : Segment :=
  ⟨some b.id, (leading usings before).length, (leading usings before).length + b.content.length⟩

/-- The part of a text that a segment covers. -/
def Segment.cut (s : Segment) (text : List Char) : List Char :=
  (text.drop s.start).take (s.stop - s.start)

/-! ## The text -/

/-- The lines of using directives, each with a line feed at its end. -/
theorem toList_usingLines :
    (usingLines usings).toList = usings.flatMap fun u => u.toList ++ ['\n'] := by
  rw [usingLines, String.toList_join, List.flatMap_map]
  exact List.flatMap_congr fun u _ => String.toList_append

theorem leading_nil : leading usings [] = (usingLines usings).toList := by
  simp [leading]

theorem length_leading (before : List Buffer) :
    (leading usings before).length = (usingLines usings).length +
      (before.flatMap fun b => b.content.toList ++ ['\n']).length := by
  rw [leading, List.length_append, String.length_toList]

/-- Texts with separators between them, seen from one of them. -/
theorem intercalate_split {α : Type} (separator text : List α) (before after : List (List α)) :
    separator.intercalate (before ++ text :: after) =
      before.flatMap (· ++ separator) ++ text ++ after.flatMap (separator ++ ·) := by
  induction before generalizing text with
  | nil =>
    induction after generalizing text with
    | nil => simp
    | cons next after ih =>
      have hrest := ih next
      rw [List.nil_append] at hrest ⊢
      rw [List.intercalate_cons_cons, hrest]
      simp
  | cons first before ih =>
    rw [List.cons_append, List.intercalate_cons_of_ne_nil (by simp), ih]
    simp

/-- The merged text is what stands before a buffer, the buffer, and what stands after it. -/
theorem mergeSources_toList (before : List Buffer) (b : Buffer) (after : List Buffer) :
    (mergeSources usings (before ++ b :: after)).text.toList =
      leading usings before ++ b.content.toList ++ trailing after := by
  show (usingLines usings ++ "\n".intercalate _).toList = _
  rw [String.toList_append, String.toList_intercalate, List.map_map, List.map_append,
    List.map_cons, intercalate_split, List.flatMap_map, List.flatMap_map]
  simp [leading, trailing]

/-- A buffer ends within the merged text. -/
theorem leading_add_length_le (before : List Buffer) (b : Buffer) (after : List Buffer) :
    (leading usings before).length + b.content.length ≤
      (mergeSources usings (before ++ b :: after)).text.length := by
  rw [← String.length_toList (s := (mergeSources usings _).text), mergeSources_toList,
    List.length_append, List.length_append, String.length_toList]
  exact Nat.le_add_right ..

variable {usings} in
/-- What stands before a buffer is whole lines. -/
theorem isClosed_leading (before : List Buffer) : Text.IsClosed (leading usings before) := by
  rw [leading, toList_usingLines]
  exact Text.isClosed_append (Text.isClosed_flatMap _ usings) (Text.isClosed_flatMap _ before)

theorem head?_trailing (after : List Buffer) :
    trailing after = [] ∨ (trailing after).head? = some '\n' := by
  cases after with
  | nil => exact .inl rfl
  | cons b after => exact .inr rfl

/-! ## The segments -/

theorem bufferSegments_append (start : Nat) (before after : List Buffer) :
    bufferSegments start (before ++ after) =
      bufferSegments start before ++
        bufferSegments (start + (before.flatMap fun b => b.content.toList ++ ['\n']).length)
          after := by
  induction before generalizing start with
  | nil => simp [bufferSegments]
  | cons b before ih =>
    simp only [List.cons_append, bufferSegments, ih, List.flatMap_cons, List.length_append,
      List.length_singleton, String.length_toList]
    rw [show start + b.content.length + 1 = start + (b.content.length + 1) by omega, Nat.add_assoc]

/-- The segments are those before a buffer, its own, and those after it. -/
theorem mergeSources_segments (before : List Buffer) (b : Buffer) (after : List Buffer) :
    (mergeSources usings (before ++ b :: after)).sourceMap.segments =
      scaffolding usings ++ bufferSegments (usingLines usings).length before ++
        ownSegment usings before b :: bufferSegments ((ownSegment usings before b).stop + 1) after := by
  show scaffolding usings ++ bufferSegments (usingLines usings).length _ = _
  rw [bufferSegments_append, ← length_leading, ← List.append_assoc, bufferSegments]
  rfl

/-- The segment of a buffer neither begins before the first of its list nor has a synthetic
owner. -/
theorem of_mem_bufferSegments {start : Nat} {bs : List Buffer} {s : Segment}
    (hs : s ∈ bufferSegments start bs) :
    s.isSynthetic = false ∧ start ≤ s.start ∧ s.start ≤ s.stop ∧
      s.stop < start + (bs.flatMap fun b => b.content.toList ++ ['\n']).length := by
  induction bs generalizing start with
  | nil => cases hs
  | cons b bs ih =>
    simp only [List.flatMap_cons, List.length_append, List.length_singleton, String.length_toList]
    rcases List.mem_cons.mp hs with rfl | hs
    · refine ⟨rfl, le_rfl, Nat.le_add_right _ _, ?_⟩
      show start + b.content.length < _
      omega
    · obtain ⟨hsyn, hstart, hle, hstop⟩ := ih hs
      exact ⟨hsyn, by omega, hle, by omega⟩

/-- The segment of the directives covers their lines from the start of the text on. -/
theorem of_mem_scaffolding {s : Segment} (hs : s ∈ scaffolding usings) :
    s = ⟨none, 0, (usingLines usings).length⟩ := by
  unfold scaffolding at hs
  split at hs
  · cases hs
  · exact List.mem_singleton.mp hs

theorem contains_of_not_synthetic {s : Segment} (hs : s.isSynthetic = false) (o : Int) :
    s.contains o = true ↔ s.start ≤ o ∧ o ≤ s.stop := by
  simp [Segment.contains, hs]

theorem contains_of_synthetic {s : Segment} (hs : s.isSynthetic = true) (o : Int) :
    s.contains o = true ↔ s.start ≤ o ∧ o < s.stop := by
  simp [Segment.contains, hs]

theorem contains_ownSegment (before : List Buffer) (b : Buffer) (o : Int) :
    (ownSegment usings before b).contains o = true ↔
      (leading usings before).length ≤ o ∧
        o ≤ (leading usings before).length + b.content.length := by
  rw [contains_of_not_synthetic rfl]
  show _ ∧ o ≤ ((leading usings before).length + b.content.length : Nat) ↔ _
  rw [Int.natCast_add]
  rfl

/-- No segment before a buffer reaches up to it. -/
theorem not_contains_of_before {before : List Buffer} {s : Segment} {o : Int}
    (hs : s ∈ scaffolding usings ++ bufferSegments (usingLines usings).length before)
    (ho : (leading usings before).length ≤ o) : ¬ s.contains o = true := by
  have hlen := length_leading usings before
  rcases List.mem_append.mp hs with hs | hs
  · rw [of_mem_scaffolding usings hs, contains_of_synthetic rfl]
    show ¬ ((0 : Int) ≤ o ∧ o < (usingLines usings).length)
    omega
  · obtain ⟨hsyn, -, -, hstop⟩ := of_mem_bufferSegments hs
    rw [contains_of_not_synthetic hsyn]
    omega

/-- Every offset of a buffer, its end included, is found in the buffer's own segment. -/
theorem segmentAt?_own (before : List Buffer) (b : Buffer) (after : List Buffer) {o : Int}
    (hstart : (leading usings before).length ≤ o)
    (hstop : o ≤ (leading usings before).length + b.content.length) :
    (mergeSources usings (before ++ b :: after)).sourceMap.segmentAt? o =
      some (ownSegment usings before b) := by
  have hbefore : (scaffolding usings ++ bufferSegments (usingLines usings).length before).find?
      (fun s => s.contains o) = none :=
    List.find?_eq_none.mpr fun s hs => not_contains_of_before usings hs hstart
  have hown := (contains_ownSegment usings before b o).mpr ⟨hstart, hstop⟩
  -- what comes after the own segment is never looked at
  rw [SourceMap.segmentAt?, mergeSources_segments, List.find?_append, hbefore, Option.none_or]
  exact List.find?_cons_of_pos hown

/-- Every segment laid out for buffers is that of one of them. -/
theorem exists_split_of_mem_bufferSegments {s : Segment} :
    ∀ {start : Nat} {buffers : List Buffer}, s ∈ bufferSegments start buffers →
      ∃ before b after, buffers = before ++ b :: after ∧ s.bufferId = some b.id ∧
        s.start = start + (before.flatMap fun b => b.content.toList ++ ['\n']).length ∧
        s.stop = s.start + b.content.length
  | start, b :: rest, hs => by
    rcases List.mem_cons.mp hs with rfl | hs
    · exact ⟨[], b, rest, rfl, rfl, rfl, rfl⟩
    · obtain ⟨before, c, after, rfl, hid, hstart, hstop⟩ := exists_split_of_mem_bufferSegments hs
      refine ⟨b :: before, c, after, rfl, hid, ?_, hstop⟩
      rw [hstart, List.flatMap_cons, List.length_append, List.length_append, String.length_toList,
        List.length_singleton]
      omega

/-- A segment that is not synthetic is some buffer's own. -/
theorem exists_own_of_mem {buffers : List Buffer} {s : Segment}
    (hs : s ∈ (mergeSources usings buffers).sourceMap.segments) (hsyn : ¬ s.isSynthetic = true) :
    ∃ before b after, buffers = before ++ b :: after ∧ s = ownSegment usings before b := by
  rcases List.mem_append.mp hs with hs | hs
  · rw [of_mem_scaffolding usings hs] at hsyn
    exact absurd rfl hsyn
  · obtain ⟨before, b, after, hsplit, hid, hstart, hstop⟩ := exists_split_of_mem_bufferSegments hs
    rw [← length_leading] at hstart
    refine ⟨before, b, after, hsplit, ?_⟩
    rw [hstart] at hstop
    exact Segment.mk.injEq .. ▸ ⟨hid, hstart, hstop⟩

end Playground
