import Playground.Diagnostic.Fault
import Playground.Proofs.Diagnostic.Mapping
import Playground.Proofs.Text.LineTable
import Playground.Proofs.Workspace.Tiling

/-!
# Attribution

A compiler tells where a fault is by a line and a column of the merged text. That place is found
again in the buffer that the line comes from, on the same line and in the same column of it,
whatever the using directives and the other buffers are.

- `firstLine` counts the merged lines before a buffer.
- `offset_own`: on the lines of a buffer the tables of the merged text and of the buffer agree.
- `map_ofFault_attribution`: what becomes of a fault on any line.
-/

namespace Playground

open Text

/-- The lines that a buffer takes up in front of another one. After a carriage return the separator
ends no line of its own. -/
def linesTaken (b : Buffer) : Nat :=
  (LineTable.ofText b.content.toList).count -
    if b.content.toList.getLast? = some '\r' then 1 else 0

/-- The line of the merged text on which a buffer starts that comes after some others. -/
def firstLine (usings : List String) (before : List Buffer) : Nat :=
  usings.length + 1 + (before.map linesTaken).sum

variable {usings : List String}

/-! ## Lines of the merged text -/

/-- Directives take up one line each, and buffers the lines that they are said to. -/
theorem length_lineStarts_leading (husings : ∀ u ∈ usings, '\r' ∉ u.toList ∧ '\n' ∉ u.toList)
    (before : List Buffer) : (lineStarts (leading usings before)).length = firstLine usings before := by
  -- without terminators of its own, a directive is a single line
  have hone : usings.map (fun u => (lineStarts u.toList).length -
      if u.toList.getLast? = some '\r' then 1 else 0) = usings.map fun _ => 1 := by
    refine List.map_congr_left fun u hu => ?_
    rw [lineStarts, lineStartsFrom_eq_nil (husings u hu),
      if_neg fun hlast => (husings u hu).1 (List.mem_of_getLast? hlast)]
    rfl
  have hclosed := isClosed_flatMap String.toList usings
  rw [leading, toList_usingLines, lineStarts, lineStartsFrom_append 0 hclosed.not_joint,
    List.length_cons, List.length_append, length_lineStartsFrom_flatMap String.toList, hone,
    length_lineStartsFrom_flatMap fun b : Buffer => b.content.toList]
  simp only [List.map_const', List.sum_replicate_nat, Nat.mul_one]
  unfold firstLine linesTaken
  show usings.length + (before.map _).sum + 1 = usings.length + 1 + (before.map _).sum
  exact Nat.add_right_comm ..

/-- A line of a buffer among the lines of the merged text: it starts so much later there, and its
text is the same. -/
theorem exists_split_own (husings : ∀ u ∈ usings, '\r' ∉ u.toList ∧ '\n' ∉ u.toList)
    (before : List Buffer) (b : Buffer) (after : List Buffer) {earlier later : List Nat} {s : Nat}
    (h : lineStarts b.content.toList = earlier ++ s :: later)
    (hkeep : ¬ (later = [] ∧ b.content.toList.getLast? = some '\r' ∧ after ≠ [])) :
    ∃ earlier' later', lineStarts (mergeSources usings (before ++ b :: after)).text.toList =
        earlier' ++ ((leading usings before).length + s) :: later' ∧
      earlier'.length + 1 = firstLine usings before + earlier.length ∧
      untilBreak ((mergeSources usings (before ++ b :: after)).text.toList.drop
        ((leading usings before).length + s)) = untilBreak (b.content.toList.drop s) := by
  have hback := head?_trailing after
  have hlater : ¬ (later = [] ∧ b.content.toList.getLast? = some '\r' ∧ trailing after ≠ []) := by
    rintro ⟨hnil, hlast, hne⟩
    refine hkeep ⟨hnil, hlast, ?_⟩
    rintro rfl
    exact hne rfl
  -- what stands after the buffer leaves the line alone, what stands before it moves it
  obtain ⟨later', hstarts⟩ := lineStarts_append_of_split h hlater
  have hfirst := length_lineStarts_leading husings before
  have hpos : 0 < (lineStarts (leading usings before)).length := by
    rw [lineStarts]
    exact Nat.succ_pos _
  have hs : s ≤ b.content.toList.length := by
    have := LineTable.add_length_untilBreak_le h
    omega
  refine ⟨(lineStarts (leading usings before)).dropLast ++
      earlier.map ((leading usings before).length + ·),
    later'.map ((leading usings before).length + ·), ?_, ?_, ?_⟩
  · rw [mergeSources_toList, List.append_assoc,
      lineStarts_append_of_closed (isClosed_leading before), hstarts, List.map_append,
      List.map_cons, List.append_assoc]
  · rw [List.length_append, List.length_dropLast, List.length_map]
    omega
  · rw [mergeSources_toList, List.append_assoc, ← List.drop_drop, List.drop_left,
      List.drop_append_of_le_length hs, untilBreak_append _ hback]

/-- On the lines of a buffer the tables of the merged text and of the buffer agree. -/
theorem offset_own (husings : ∀ u ∈ usings, '\r' ∉ u.toList ∧ '\n' ∉ u.toList)
    (before : List Buffer) (b : Buffer) (after : List Buffer) {j : Nat} (hj : 1 ≤ j)
    (hcount : j ≤ (LineTable.ofText b.content.toList).count)
    (hkeep : ¬ (j = (LineTable.ofText b.content.toList).count ∧
      b.content.toList.getLast? = some '\r' ∧ after ≠ [])) (column : Int) :
    (LineTable.ofText (mergeSources usings (before ++ b :: after)).text.toList).offset
        (firstLine usings before + j - 1) column =
      (leading usings before).length + (LineTable.ofText b.content.toList).offset j column := by
  obtain ⟨earlier, s, later, h, rfl⟩ := LineTable.exists_split hj hcount
  have hlater : ¬ (later = [] ∧ b.content.toList.getLast? = some '\r' ∧ after ≠ []) := by
    rintro ⟨rfl, hlast, hne⟩
    exact hkeep ⟨(LineTable.count_of_split h).symm, hlast, hne⟩
  obtain ⟨earlier', later', hmerged, hlength, htext⟩ :=
    exists_split_own husings before b after h hlater
  have hline : (firstLine usings before : Int) + (earlier.length + 1 : Nat) - 1 =
      (earlier'.length + 1 : Nat) := by omega
  rw [hline, LineTable.offset_of_split hmerged, LineTable.offset_of_split h, htext, Nat.add_assoc]

/-- On the lines of the directives the table of the merged text stays within the directives. -/
theorem offset_lt_of_le_length (husings : ∀ u ∈ usings, '\r' ∉ u.toList ∧ '\n' ∉ u.toList)
    {buffers : List Buffer} {j : Nat} (hj : 1 ≤ j) (hle : j ≤ usings.length) (column : Int) :
    (LineTable.ofText (mergeSources usings buffers).text.toList).offset j column <
      (usingLines usings).length := by
  have hfirst := length_lineStarts_leading husings []
  rw [leading_nil] at hfirst
  have hlt : j - 1 < (lineStarts (usingLines usings).toList).dropLast.length := by
    rw [List.length_dropLast, hfirst]
    show j - 1 < usings.length + 1 + 0 - 1
    omega
  obtain ⟨earlier, s, later, hlines, hlen⟩ := LineTable.exists_eq_append_cons hlt
  have hclosed : IsClosed (usingLines usings).toList := leading_nil usings ▸ isClosed_leading []
  -- the first line after the directives starts at their end
  have h : lineStarts (mergeSources usings buffers).text.toList = earlier ++ s :: (later ++
      (usingLines usings).toList.length ::
        (lineStartsFrom 0 (joined buffers)).map ((usingLines usings).toList.length + ·)) := by
    rw [mergeSources_toList_joined, lineStarts_append_of_closed hclosed, hlines, List.append_assoc]
    rfl
  have hstop := (lineAmong_of_split h).stop_lt (usingLines usings).toList.length (by simp)
  obtain rfl : j = earlier.length + 1 := by omega
  rw [LineTable.offset_of_split h]
  rw [Nat.sub_zero, String.length_toList] at hstop
  omega

/-! ## Faults -/

theorem orOne_of_ne_zero {n : Int} (hn : n ≠ 0) : Report.orOne (some n) = n := by
  unfold Report.orOne
  split
  · next h => cases h
  · next h => exact absurd (Option.some.inj h) hn
  · next h => exact (Option.some.inj h).symm

/-- A fault is reported at the offset of its line and column. -/
theorem start_ofFault (t : LineTable) {f : Source.SyntaxFault} {line : Int}
    (hline : f.line = some line) (hne : line ≠ 0) :
    (Report.ofFault t f).start = some (t.offset line (Report.orOne f.offset - 1) : Int) := by
  rw [← orOne_of_ne_zero hne, ← hline]
  rfl

variable {w : Workspace} {f : Source.SyntaxFault}

/-- A fault on a line of a buffer is attributed to the buffer, at the offset of the same column on
that line of the buffer. -/
theorem map_ofFault_own (husings : ∀ u ∈ w.usings, '\r' ∉ u.toList ∧ '\n' ∉ u.toList)
    {before : List Buffer} {b : Buffer} {after : List Buffer}
    (hsplit : w.buffers = before ++ b :: after) {j : Nat} (hj : 1 ≤ j)
    (hcount : j ≤ (LineTable.ofText b.content.toList).count)
    (hkeep : ¬ (j = (LineTable.ofText b.content.toList).count ∧
      b.content.toList.getLast? = some '\r' ∧ after ≠ []))
    (hline : f.line = some ((firstLine w.usings before : Int) + j - 1)) :
    ∃ stop, Diagnostic.map w (.ofFault (.ofText w.merged.text.toList) f) =
      .ok (.ofReport (.ofFault (.ofText w.merged.text.toList) f)
        ((LineTable.ofText b.content.toList).offset j (Report.orOne f.offset - 1)) stop
        (some b.id)) := by
  have hpos : (firstLine w.usings before : Int) + j - 1 ≠ 0 := by
    unfold firstLine
    omega
  have hoffset : (LineTable.ofText w.merged.text.toList).offset
      ((firstLine w.usings before : Int) + j - 1) (Report.orOne f.offset - 1) =
        (leading w.usings before).length +
          (LineTable.ofText b.content.toList).offset j (Report.orOne f.offset - 1) := by
    rw [Workspace.merged, hsplit]
    exact offset_own husings before b after hj hcount hkeep _
  have hstart := start_ofFault (.ofText w.merged.text.toList) hline hpos
  rw [hoffset] at hstart
  have hwithin := LineTable.offset_le hj hcount (Report.orOne f.offset - 1)
  rw [String.length_toList] at hwithin
  exact ⟨_, Diagnostic.map_own hsplit hwithin hstart⟩

/-- A fault on a line of the directives concerns no buffer. -/
theorem map_ofFault_directives (husings : ∀ u ∈ w.usings, '\r' ∉ u.toList ∧ '\n' ∉ u.toList)
    {j : Nat} (hj : 1 ≤ j) (hle : j ≤ w.usings.length) (hline : f.line = some (j : Int)) :
    Diagnostic.map w (.ofFault (.ofText w.merged.text.toList) f) =
      .ok (.ofReport (.ofFault (.ofText w.merged.text.toList) f) 0 0 none) := by
  have hstart := start_ofFault (.ofText w.merged.text.toList) hline (by omega)
  have hlt : (LineTable.ofText w.merged.text.toList).offset j (Report.orOne f.offset - 1) <
      (usingLines w.usings).length := offset_lt_of_le_length husings hj hle _
  have hne : w.usings.isEmpty = false := by
    cases husings : w.usings with
    | nil =>
      rw [husings] at hle
      simp only [List.length_nil] at hle
      omega
    | cons u us => rfl
  have hseg : w.merged.sourceMap.segmentAt?
      ((LineTable.ofText w.merged.text.toList).offset j (Report.orOne f.offset - 1) : Nat) =
        some ⟨none, 0, (usingLines w.usings).length⟩ := by
    show (scaffolding w.usings ++ _).find? _ = _
    rw [scaffolding, hne]
    refine List.find?_cons_of_pos ?_
    rw [contains_of_synthetic rfl]
    exact ⟨Int.natCast_nonneg _, Int.ofNat_lt.mpr hlt⟩
  exact Diagnostic.map_of_synthetic hstart hseg rfl

/-- A fault behind the last line is put at the end of the last buffer. -/
theorem map_ofFault_behind {before : List Buffer} {b : Buffer} (hsplit : w.buffers = before ++ [b])
    {line : Int} (hbehind : (LineTable.ofText w.merged.text.toList).count < line)
    (hline : f.line = some line) :
    Diagnostic.map w (.ofFault (.ofText w.merged.text.toList) f) =
      .ok (.ofReport (.ofFault (.ofText w.merged.text.toList) f) b.content.length b.content.length
        (some b.id)) := by
  have hlength : w.merged.text.toList.length =
      (leading w.usings before).length + b.content.length := by
    rw [Workspace.merged, hsplit, mergeSources_toList]
    simp [trailing, String.length_toList]
  have hstart := start_ofFault (.ofText w.merged.text.toList) hline (by omega)
  rw [LineTable.offset, if_pos hbehind] at hstart
  change _ = some (w.merged.text.toList.length : Int) at hstart
  rw [hlength] at hstart
  rw [Diagnostic.map_own hsplit le_rfl hstart]
  congr 2
  omega

/-- What is told of a diagnostic at an offset that the table of its buffer has told from a line and
a column is that line, and the column on it. -/
theorem format_own (hids : (w.buffers.map (·.id)).Nodup) {b : Buffer} (hb : b ∈ w.buffers) {j : Nat}
    (hj : 1 ≤ j) (hcount : j ≤ (LineTable.ofText b.content.toList).count) (column : Int)
    (d : Diagnostic) (hid : d.bufferId = some b.id)
    (hstart : d.start = (LineTable.ofText b.content.toList).offset j column) :
    let shown := (min (max column 0)
      ((LineTable.ofText b.content.toList).lineText j).length).toNat + 1
    let location := s!"{b.id}({j},{shown})"
    d.format w = .ok s!"{location}: {d.severity} {d.id}: {d.message}" := by
  intro shown location
  have hposition := LineTable.position_offset hj hcount column
  rw [← hstart] at hposition
  rw [Diagnostic.format, Diagnostic.location, hid]
  show ((w.buffer b.id).map _).map _ = _
  rw [Workspace.buffer_of_mem hids hb]
  simp only [Except.map, hposition]
  rfl

/-- What becomes of a fault on a line of the merged text.

1. On a line of a buffer it is attributed to the buffer, at the offset of the same column on that
   line of the buffer, and is told with that line and that column.
2. On a line of the directives it concerns no buffer.
3. Behind the last line it is put at the end of the last buffer. -/
theorem map_ofFault_attribution (w : Workspace) (hne : w.buffers ≠ [])
    (hids : (w.buffers.map (·.id)).Nodup)
    (husings : ∀ u ∈ w.usings, '\r' ∉ u.toList ∧ '\n' ∉ u.toList)
    (f : Source.SyntaxFault) (line : Int) (hline : f.line = some line) :
    let table := LineTable.ofText w.merged.text.toList
    let report := Report.ofFault table f
    (∀ before b after, w.buffers = before ++ b :: after →
      let own := LineTable.ofText b.content.toList
      ∀ j : Nat, 1 ≤ j → j ≤ own.count →
        ¬ (j = own.count ∧ b.content.toList.getLast? = some '\r' ∧ after ≠ []) →
        line = firstLine w.usings before + j - 1 →
        let column := Report.orOne f.offset - 1
        let shown := (min (max column 0) (own.lineText j).length).toNat + 1
        let location := s!"{b.id}({j},{shown})"
        ∃ d, Diagnostic.map w report = .ok d ∧ d.bufferId = some b.id ∧
          d.start = own.offset j column ∧
          d.format w = .ok s!"{location}: {d.severity} {d.id}: {d.message}") ∧
    (1 ≤ line → line ≤ w.usings.length →
      ∃ d, Diagnostic.map w report = .ok d ∧ d.bufferId = none ∧ d.start = 0 ∧ d.stop = 0) ∧
    (table.count < line →
      ∃ d, Diagnostic.map w report = .ok d ∧ d.bufferId = some (w.buffers.getLast hne).id ∧
        d.start = (w.buffers.getLast hne).content.length ∧ d.stop = d.start) := by
  intro table report
  refine ⟨?_, ?_, ?_⟩
  · intro before b after hsplit own j hj hcount hkeep heq column shown location
    obtain ⟨stop, hmap⟩ := map_ofFault_own husings hsplit hj hcount hkeep (heq ▸ hline)
    have hb : b ∈ w.buffers := by rw [hsplit]; simp
    exact ⟨_, hmap, rfl, rfl, format_own hids hb hj hcount column _ rfl rfl⟩
  · intro hpos hle
    obtain ⟨j, rfl⟩ : ∃ j : Nat, line = j := ⟨line.toNat, by omega⟩
    exact ⟨_, map_ofFault_directives husings (by omega) (by omega) hline, rfl, rfl, rfl⟩
  · intro hbehind
    have hsplit := (List.dropLast_concat_getLast hne).symm
    exact ⟨_, map_ofFault_behind hsplit hbehind hline, rfl, rfl, rfl⟩

/-- A fault on the second line of the second of three buffers. The first one ends in a carriage
return, so that the separator after it ends no line of its own. -/
theorem map_ofFault_after_carriage_return :
    let w : Workspace := ⟨"script",
      [⟨"a", "x = 1\r", none⟩, ⟨"b", "y =\r\n  2 +", none⟩, ⟨"c", "", none⟩], ["import math"], [],
      none⟩
    let f : Source.SyntaxFault := ⟨.syntaxError, some "invalid syntax", some 4, some 5, none, none⟩
    w.buffers ≠ [] ∧ (w.buffers.map (·.id)).Nodup ∧
      (∀ u ∈ w.usings, '\r' ∉ u.toList ∧ '\n' ∉ u.toList) ∧ f.line = some 4 ∧
      ∃ d, Diagnostic.map w (.ofFault (.ofText w.merged.text.toList) f) = .ok d ∧
        d.bufferId = some "b" ∧ d.start = 9 := by
  intro w f
  have hne : w.buffers ≠ [] := List.cons_ne_nil _ _
  have hids : (w.buffers.map (·.id)).Nodup := by decide
  have husings : ∀ u ∈ w.usings, '\r' ∉ u.toList ∧ '\n' ∉ u.toList := by decide
  obtain ⟨hown, -, -⟩ := map_ofFault_attribution w hne hids husings f 4 rfl
  obtain ⟨d, hmap, hid, hstart, -⟩ := hown [⟨"a", "x = 1\r", none⟩] ⟨"b", "y =\r\n  2 +", none⟩
    [⟨"c", "", none⟩] rfl 2 (by decide) (by decide) (by decide) (by decide)
  exact ⟨hne, hids, husings, rfl, d, hmap, hid, hstart⟩

end Playground
