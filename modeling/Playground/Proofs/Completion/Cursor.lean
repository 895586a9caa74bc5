import Playground.Completion.Cursor
import Playground.Proofs.Workspace.Normal
import Playground.Proofs.Workspace.Tiling

/-!
# Cursors of workspaces

A workspace that was accepted has a cursor iff the position of its entry buffer is on the buffer.
That is the cursor about which a toolchain is asked.

- `Buffer.HasCursor`: what it is for a buffer to have a position on it.
- `cursor_of_nodup`: with one, the cursor is at the same distance from the start of the entry
  buffer in the merged text.
- `cursor_of_not_hasCursor`: without one, it is refused.
- `Cursor.StandsAt`: what it is for a cursor in the merged text to stand at a position of a buffer.
- `Consults`: what it is to ask a toolchain about such a cursor, and about nothing if there is none.
- `complete_inspect_consult`: completing and inspecting do.
-/

namespace Playground

/-- Whether the position of a buffer is on it; its end counts. -/
def Buffer.HasCursor (b : Buffer) : Prop :=
  ∃ position, b.position = some position ∧ 0 ≤ position ∧ position ≤ b.content.length

namespace Workspace

variable {w : Workspace} {b : Buffer}

/-- What becomes of the position of the entry buffer. -/
theorem cursor_of_entryBuffer (hentry : w.entryBuffer = .ok b) :
    w.cursor =
      match b.position with
      | none => .error (.refused .noPosition)
      | some position =>
        if position < 0 ∨ b.content.length < position then
          .error (.refused (.positionOutside position b.content.length))
        else
          ((w.merged.sourceMap.toMerged b.id position).mapError .missing).map
            (⟨w.merged.text, ·⟩) := by
  rw [cursor, hentry]
  show (match b.position with | none => _ | some position => _) = _
  cases b.position with
  | none => rfl
  | some position =>
    dsimp only
    split
    · rfl
    · cases w.merged.sourceMap.toMerged b.id position <;> rfl

/-- With a position on the entry buffer there is a cursor: the same place in the merged text. -/
theorem cursor_of_nodup (hids : (w.buffers.map (·.id)).Nodup) (hentry : w.entryBuffer = .ok b)
    (hcursor : b.HasCursor) :
    ∃ position before after, b.position = some position ∧ w.buffers = before ++ b :: after ∧
      w.cursor = .ok ⟨w.merged.text, (leading w.usings before).length + position⟩ := by
  obtain ⟨position, hposition, hzero, hlength⟩ := hcursor
  obtain ⟨before, after, hsplit⟩ := List.append_of_mem (mem_of_entryBuffer hentry)
  rw [hsplit] at hids
  have hmerged : w.merged.sourceMap.toMerged b.id position =
      .ok ((leading w.usings before).length + position) := by
    rw [merged, hsplit]
    exact toMerged_own w.usings hids position
  have hwithin : ¬ (position < 0 ∨ b.content.length < position) := by omega
  refine ⟨position, before, after, hposition, hsplit, ?_⟩
  rw [cursor_of_entryBuffer hentry, hposition]
  dsimp only
  rw [if_neg hwithin, hmerged]
  rfl

/-- A workspace that was accepted has distinct identifiers, so the same holds of it. -/
theorem cursor_of_hasCursor (hw : w.WellFormed) (hentry : w.entryBuffer = .ok b)
    (hcursor : b.HasCursor) :
    ∃ position before after, b.position = some position ∧ w.buffers = before ++ b :: after ∧
      w.cursor = .ok ⟨w.merged.text, (leading w.usings before).length + position⟩ :=
  cursor_of_nodup hw.ids hentry hcursor

/-- Without a position on the entry buffer the cursor is refused. -/
theorem cursor_of_not_hasCursor (hentry : w.entryBuffer = .ok b) (hcursor : ¬ b.HasCursor) :
    ∃ cause, w.cursor = .error (.refused cause) := by
  rw [cursor_of_entryBuffer hentry]
  cases hposition : b.position with
  | none => exact ⟨.noPosition, rfl⟩
  | some position =>
    have houtside : position < 0 ∨ b.content.length < position := by
      by_contra hwithin
      exact hcursor ⟨position, hposition, by omega, by omega⟩
    dsimp only
    rw [if_pos houtside]
    exact ⟨_, rfl⟩

end Workspace

/-! ## The place of a position -/

/-- A cursor in the merged text of a workspace stands at a position of a buffer. -/
structure Cursor.StandsAt (c : Cursor) (w : Workspace) (b : Buffer) (position : Int) : Prop where
  text : c.text = w.merged.text
  within : 0 ≤ c.offset ∧ c.offset ≤ c.text.length
  /-- What is in front of the position stands in front of the cursor. -/
  front : b.content.toList.take position.toNat <:+ c.text.toList.take c.offset.toNat
  /-- What is behind the position stands behind the cursor. -/
  back : b.content.toList.drop position.toNat <+: c.text.toList.drop c.offset.toNat
  /-- The segment at the cursor is that of the buffer, and the position is where in it the cursor
  is. -/
  attributed : ∃ s, w.merged.sourceMap.segmentAt? c.offset = some s ∧
    w.merged.sourceMap.segmentFor b.id = .ok s ∧ s.bufferId = some b.id ∧
    c.offset - s.start = position

/-- So a position has one place in the merged text. -/
theorem Cursor.StandsAt.eq_of_segmentFor {c : Cursor} {w : Workspace} {b : Buffer} {position : Int}
    (h : c.StandsAt w b position) {s : Segment}
    (hs : w.merged.sourceMap.segmentFor b.id = .ok s) :
    c = ⟨w.merged.text, s.start + position⟩ := by
  obtain ⟨s', -, hs', -, hposition⟩ := h.attributed
  obtain rfl : s = s' := Except.ok.inj (hs.symm.trans hs')
  have hoffset : c.offset = s.start + position := by omega
  exact Cursor.mk.injEq .. ▸ ⟨h.text, hoffset⟩

/-- The offset that a position of a buffer has behind all that stands before the buffer. -/
theorem Cursor.standsAt_own {w : Workspace} {before after : List Buffer} {b : Buffer}
    (hsplit : w.buffers = before ++ b :: after) (hids : (w.buffers.map (·.id)).Nodup)
    {position : Int} (hzero : 0 ≤ position) (hlength : position ≤ b.content.length) :
    Cursor.StandsAt ⟨w.merged.text, (leading w.usings before).length + position⟩ w b position := by
  obtain ⟨o, rfl⟩ := Int.eq_ofNat_of_zero_le hzero
  have ho : o ≤ b.content.toList.length := by
    rw [String.length_toList]
    omega
  have hmerged : w.merged = mergeSources w.usings (before ++ b :: after) := by
    rw [Workspace.merged, hsplit]
  have htext : w.merged.text.toList =
      leading w.usings before ++ (b.content.toList ++ trailing after) := by
    rw [hmerged, mergeSources_toList, List.append_assoc]
  have hend := leading_add_length_le w.usings before b after
  rw [← hmerged] at hend
  have hstart : ((leading w.usings before).length : Int) ≤ (leading w.usings before).length + o := by
    omega
  have hstop : ((leading w.usings before).length : Int) + o ≤
      (leading w.usings before).length + b.content.length := by omega
  have hoffset : ((leading w.usings before).length + (o : Int)).toNat =
      (leading w.usings before).length + o := by omega
  rw [hsplit] at hids
  constructor
  case text => rfl
  case within =>
    dsimp only
    omega
  case front =>
    dsimp only
    rw [htext, hoffset, Int.toNat_natCast, List.take_length_add_append,
      List.take_append_of_le_length ho]
    exact List.suffix_append ..
  case back =>
    dsimp only
    rw [htext, hoffset, Int.toNat_natCast, List.drop_length_add_append,
      List.drop_append_of_le_length ho]
    exact List.prefix_append ..
  case attributed =>
    refine ⟨ownSegment w.usings before b, ?_, ?_, rfl, ?_⟩
    · rw [hmerged]
      exact segmentAt?_own w.usings before b after hstart hstop
    · rw [hmerged]
      exact segmentFor_own w.usings hids
    · show ((leading w.usings before).length : Int) + o - (leading w.usings before).length = o
      omega

namespace Workspace

variable {w : Workspace} {b : Buffer}

/-! ## Asking a toolchain -/

section

variable (hids : (w.buffers.map (·.id)).Nodup) (hentry : w.entryBuffer = .ok b)
include hids hentry

/-- A position on the entry buffer has a place in the merged text. -/
theorem exists_cursor {position : Int} (hposition : b.position = some position)
    (hwithin : 0 ≤ position ∧ position ≤ b.content.length) :
    ∃ c, w.cursor = .ok c ∧ c.StandsAt w b position := by
  obtain ⟨position', before, after, hposition', hsplit, hcursor⟩ :=
    cursor_of_nodup hids hentry ⟨position, hposition, hwithin⟩
  obtain rfl := Option.some.inj (hposition.symm.trans hposition')
  exact ⟨_, hcursor, Cursor.standsAt_own hsplit hids hwithin.1 hwithin.2⟩

/-- The position of the entry buffer is missing, or not on the buffer, or there is a cursor. -/
theorem cursor_outcomes :
    (b.position = none ∧ w.cursor = .error (.refused .noPosition)) ∨
    (∃ position, b.position = some position ∧ ¬ (0 ≤ position ∧ position ≤ b.content.length) ∧
      w.cursor = .error (.refused (.positionOutside position b.content.length))) ∨
    (∃ position c, b.position = some position ∧ (0 ≤ position ∧ position ≤ b.content.length) ∧
      w.cursor = .ok c) := by
  cases hposition : b.position with
  | none =>
    refine .inl ⟨rfl, ?_⟩
    rw [cursor_of_entryBuffer hentry, hposition]
  | some position =>
    by_cases hwithin : 0 ≤ position ∧ position ≤ b.content.length
    · obtain ⟨c, hcursor, -⟩ := exists_cursor hids hentry hposition hwithin
      exact .inr (.inr ⟨position, c, rfl, hwithin, hcursor⟩)
    · refine .inr (.inl ⟨position, rfl, hwithin, ?_⟩)
      rw [cursor_of_entryBuffer hentry, hposition]
      dsimp only
      rw [if_pos (by omega)]

theorem cursor_eq_noPosition_iff :
    w.cursor = .error (.refused .noPosition) ↔ b.position = none := by
  rcases cursor_outcomes hids hentry with ⟨hnone, hcursor⟩ | ⟨position, hposition, -, hcursor⟩ |
    ⟨position, c, hposition, -, hcursor⟩
  · exact iff_of_true hcursor hnone
  · rw [hcursor, hposition]
    exact iff_of_false nofun nofun
  · rw [hcursor, hposition]
    exact iff_of_false nofun nofun

theorem cursor_eq_positionOutside_iff (position : Int) (length : Nat) :
    w.cursor = .error (.refused (.positionOutside position length)) ↔
      b.position = some position ∧ ¬ (0 ≤ position ∧ position ≤ b.content.length) ∧
        length = b.content.length := by
  rcases cursor_outcomes hids hentry with ⟨hnone, hcursor⟩ | ⟨other, hposition, hout, hcursor⟩ |
    ⟨other, c, hposition, hin, hcursor⟩
  · rw [hcursor, hnone]
    exact iff_of_false nofun nofun
  · rw [hcursor, hposition]
    constructor
    · intro h
      cases h
      exact ⟨rfl, hout, rfl⟩
    · rintro ⟨h, -, rfl⟩
      cases h
      rfl
  · rw [hcursor, hposition]
    refine iff_of_false nofun ?_
    rintro ⟨h, hout, -⟩
    cases h
    exact hout hin

end

/-- An operation on a workspace asks a toolchain about the cursor of the caller, and does not ask if
there is none. -/
structure Consults {τ α : Type} (w : Workspace) (b : Buffer)
    (operation : Toolchain τ → Except CursorError α) (ask : Toolchain τ → String → Int → α) :
    Prop where
  missing : ∀ t, operation t = .error (.refused .noPosition) ↔ b.position = none
  outside : ∀ t position length,
    operation t = .error (.refused (.positionOutside position length)) ↔
      b.position = some position ∧ ¬ (0 ≤ position ∧ position ≤ b.content.length) ∧
        length = b.content.length
  /-- What is refused is refused whatever the toolchain would say, so it is not asked. -/
  unasked : ∀ t e, operation t = .error e → ∀ t', operation t' = .error e
  /-- Otherwise the outcome is what the toolchain says, whichever it is, about the place that the
  position has in the merged text. -/
  asked : ∀ position, b.position = some position → 0 ≤ position → position ≤ b.content.length →
    ∃ c : Cursor, c.StandsAt w b position ∧ ∀ t, operation t = .ok (ask t c.text c.offset)

/-- Whatever asks a toolchain about the cursor of a workspace asks about that of the caller. -/
theorem consults_of_cursor {τ α : Type} {operation : Toolchain τ → Except CursorError α}
    {ask : Toolchain τ → String → Int → α} (hids : (w.buffers.map (·.id)).Nodup)
    (hentry : w.entryBuffer = .ok b)
    (hoperation : ∀ t, operation t = w.cursor.map fun c => ask t c.text c.offset) :
    w.Consults b operation ask := by
  -- an operation fails where there is no cursor, for all toolchains alike
  have hfails (t : Toolchain τ) (e : CursorError) :
      operation t = .error e ↔ w.cursor = .error e := by
    rw [hoperation]
    cases w.cursor <;> simp [Except.map]
  constructor
  case missing => exact fun t => (hfails t _).trans (cursor_eq_noPosition_iff hids hentry)
  case outside =>
    exact fun t position length =>
      (hfails t _).trans (cursor_eq_positionOutside_iff hids hentry position length)
  case unasked => exact fun t e h t' => (hfails t' e).mpr ((hfails t e).mp h)
  case asked =>
    intro position hposition hzero hlength
    obtain ⟨c, hcursor, hplace⟩ := exists_cursor hids hentry hposition ⟨hzero, hlength⟩
    refine ⟨c, hplace, fun t => ?_⟩
    rw [hoperation, hcursor]
    rfl

/-- On a workspace of a request, completing and inspecting ask about the position of the entry
buffer, at the place that it has in the merged text, and only if it is on the buffer. -/
theorem complete_inspect_consult {r : Request} (hw : ofRequest r = .ok w) (τ : Type) :
    ∃ b, w.entryBuffer = .ok b ∧ w.IsEntry b ∧
      w.Consults b (fun t : Toolchain τ => w.complete t) Toolchain.complete ∧
      w.Consults b (fun t : Toolchain τ => w.inspect t) Toolchain.inspect := by
  have hids := (wellFormed_of_ofRequest hw).ids
  obtain ⟨b, hentry⟩ := exists_entryBuffer_of_ofRequest hw
  exact ⟨b, hentry, isEntry_of_entryBuffer hentry,
    consults_of_cursor hids hentry fun _ => rfl, consults_of_cursor hids hentry fun _ => rfl⟩

/-- The end of the second of three buffers, which is the first one with a position. -/
theorem complete_inspect_consult_second_buffer :
    let r : Request :=
      { buffers := some [⟨"a", "x = 1", none⟩, ⟨"b", "math.p", some 6⟩, ⟨"c", "", some 0⟩]
        usings := some ["math"] }
    let b : Buffer := ⟨"b", "math.p", some 6⟩
    let w : Workspace :=
      ⟨"script", [⟨"a", "x = 1", none⟩, b, ⟨"c", "", some 0⟩], ["import math"], [], none⟩
    ofRequest r = .ok w ∧ w.entryBuffer = .ok b ∧ ∀ (τ : Type) (t : Toolchain τ),
      w.complete t = .ok (t.complete "import math\nx = 1\nmath.p\n" 24) ∧
        w.inspect t = .ok (t.inspect "import math\nx = 1\nmath.p\n" 24) := by
  intro r b w
  have hw : ofRequest r = .ok w := by decide
  have hentry : w.entryBuffer = .ok b := by decide
  refine ⟨hw, hentry, fun τ t => ?_⟩
  obtain ⟨b', hentry', -, hcomplete, hinspect⟩ := complete_inspect_consult hw τ
  obtain rfl : b = b' := Except.ok.inj (hentry.symm.trans hentry')
  have hplace {c : Cursor} (hc : c.StandsAt w b 6) :
      c = ⟨"import math\nx = 1\nmath.p\n", 24⟩ :=
    hc.eq_of_segmentFor (s := ⟨some "b", 18, 24⟩) (by decide)
  obtain ⟨c, hc, hcompletes⟩ := hcomplete.asked 6 rfl (by decide) (by decide)
  obtain ⟨c', hc', hinspects⟩ := hinspect.asked 6 rfl (by decide) (by decide)
  obtain rfl := hplace hc
  obtain rfl := hplace hc'
  exact ⟨hcompletes t, hinspects t⟩

end Workspace

end Playground
