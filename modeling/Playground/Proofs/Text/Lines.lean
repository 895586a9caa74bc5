import Playground.Proofs.Text.LineTable

/-!
# Texts cut into lines

The starts of lines cut a text into its lines, each with the terminator at its end, and every offset
of the text belongs to one of them. So a table is faithful to its text: nothing is lost between
offsets and places but the second character of a terminator.

- `firstLine`: a text is a single line, or its first line, a terminator, and the lines behind it.
- `LineAt`: what a line is, seen from its start; `lineAt_of_split` finds it in the text.
- `exists_split_at`: the line of an offset.
- `piece_of_cut`: what a text falls into, cut at the starts of its lines.
- `table_faithful`: what a table tells of its text.
-/

namespace Playground.Text

/-- A terminator in front of what follows it in a text. A carriage return is one of its own only if
no line feed follows. -/
inductive Terminates : List Char → List Char → Prop
  | crlf (rest : List Char) : Terminates ['\r', '\n'] rest
  | cr {rest : List Char} : rest.head? ≠ some '\n' → Terminates ['\r'] rest
  | lf (rest : List Char) : Terminates ['\n'] rest

/-- Whether an offset is that of the line feed of a terminator of two characters. -/
def WithinTerminator (text : List Char) (o : Nat) : Prop :=
  0 < o ∧ text[o - 1]? = some '\r' ∧ text[o]? = some '\n'

/-- The pieces into which a text is cut at some offsets, from the first of them on. -/
def cut (text : List Char) : List Nat → List (List Char)
  | [] => []
  | [s] => [text.drop s]
  | s :: next :: later => (text.drop s).take (next - s) :: cut text (next :: later)

/-! ## Cutting -/

theorem length_cut (text : List Char) : ∀ starts : List Nat,
    (cut text starts).length = starts.length
  | [] | [_] => rfl
  | _ :: next :: later => congrArg (· + 1) (length_cut text (next :: later))

/-- The pieces of a text that is cut at offsets in order are the text, from the first offset on. -/
theorem flatten_cut {text : List Char} : ∀ {s : Nat} {later : List Nat},
    (s :: later).Pairwise (· < ·) → (cut text (s :: later)).flatten = text.drop s
  | s, [], _ => by simp [cut]
  | s, next :: later, h => by
    obtain ⟨hs, hlater⟩ := List.pairwise_cons.mp h
    have hlt : s < next := hs next List.mem_cons_self
    have hback : text.drop next = (text.drop s).drop (next - s) := by
      rw [List.drop_drop, Nat.add_sub_cancel' (Nat.le_of_lt hlt)]
    rw [cut, List.flatten_cons, flatten_cut hlater, hback, List.take_append_drop]

/-- The pieces from one of the offsets on are those of the text that is cut at that offset and those
after it. -/
theorem cut_append (text : List Char) (s : Nat) (after : List Nat) : ∀ before : List Nat,
    ∃ front, front.length = before.length ∧
      cut text (before ++ s :: after) = front ++ cut text (s :: after)
  | [] => ⟨[], rfl, rfl⟩
  | [x] => ⟨[(text.drop x).take (s - x)], rfl, rfl⟩
  | x :: y :: before => by
    obtain ⟨front, hlength, hcut⟩ := cut_append text s after (y :: before)
    refine ⟨(text.drop x).take (y - x) :: front, congrArg (· + 1) hlength, ?_⟩
    rw [List.cons_append, List.cons_append, cut, ← List.cons_append, hcut, List.cons_append]

/-! ## The first line of a text -/

theorem not_break_of_mem_untilBreak {text : List Char} {c : Char} (hc : c ∈ untilBreak text) :
    c ≠ '\r' ∧ c ≠ '\n' :=
  of_decide_eq_true (List.all_eq_true.mp List.all_takeWhile c hc)

/-- A text is a single line, or its first line, a terminator, and the lines behind it. -/
theorem firstLine (text : List Char) (n : Nat) :
    (text = untilBreak text ∧ lineStartsFrom n text = []) ∨
      ∃ terminator rest, Terminates terminator rest ∧
        text = untilBreak text ++ (terminator ++ rest) ∧
        lineStartsFrom n text =
          (n + (untilBreak text).length + terminator.length) ::
            lineStartsFrom (n + (untilBreak text).length + terminator.length) rest := by
  induction text using lineInduction generalizing n with
  | nil => exact .inl ⟨rfl, rfl⟩
  | crlf rest ih =>
    refine .inr ⟨_, rest, .crlf rest, ?_⟩
    rw [untilBreak_cons_of_not _ (.inl rfl), lineStartsFrom_crlf]
    exact ⟨rfl, rfl⟩
  | terminator c rest hc hjoint ih =>
    have hterminates : Terminates [c] rest := by
      rcases hc with rfl | rfl
      · exact .cr fun hhead => hjoint ⟨rfl, hhead⟩
      · exact .lf rest
    refine .inr ⟨_, rest, hterminates, ?_⟩
    rw [untilBreak_cons_of_not _ hc, lineStartsFrom_break _ hc hjoint]
    exact ⟨rfl, rfl⟩
  | within c rest hc ih =>
    rw [untilBreak_cons _ hc, lineStartsFrom_within _ _ hc]
    rcases ih (n + 1) with ⟨hline, hstarts⟩ | ⟨terminator, back, hterminates, hrest, hstarts⟩
    · exact .inl ⟨by rw [← hline], hstarts⟩
    · refine .inr ⟨terminator, back, hterminates, ?_, ?_⟩
      · rw [List.cons_append, ← hrest]
      · rw [hstarts, List.length_cons,
          show n + 1 + (untilBreak rest).length = n + ((untilBreak rest).length + 1) by omega]

/-- The starts of a text are in order. -/
theorem pairwise_lineStartsFrom (text : List Char) (n : Nat) :
    (n :: lineStartsFrom n text).Pairwise (· < ·) := by
  refine .cons (fun x hx => lt_of_mem_lineStartsFrom hx) ?_
  induction text using lineInduction generalizing n with
  | nil => exact .nil
  | crlf rest ih =>
    rw [lineStartsFrom_crlf]
    exact .cons (fun x hx => lt_of_mem_lineStartsFrom hx) (ih _)
  | terminator c rest hc hjoint ih =>
    rw [lineStartsFrom_break _ hc hjoint]
    exact .cons (fun x hx => lt_of_mem_lineStartsFrom hx) (ih _)
  | within c rest hc ih =>
    rw [lineStartsFrom_within _ _ hc]
    exact ih _

theorem pairwise_lineStarts (text : List Char) : (lineStarts text).Pairwise (· < ·) :=
  pairwise_lineStartsFrom text 0

/-- The starts after a line are those of the text behind its start. The induction is on the lines
before it. -/
theorem after_of_split {text : List Char} {n s : Nat} {before after : List Nat}
    (h : n :: lineStartsFrom n text = before ++ s :: after) :
    after = lineStartsFrom s (text.drop (s - n)) := by
  induction before generalizing text n with
  | nil =>
    obtain ⟨rfl, rfl⟩ := List.cons.inj h
    rw [Nat.sub_self, List.drop_zero]
  | cons x before ih =>
    obtain ⟨-, htail⟩ := List.cons.inj h
    rcases firstLine text n with ⟨-, hstarts⟩ | ⟨terminator, rest, -, htext, hstarts⟩
    · rw [hstarts] at htail
      exact absurd htail.symm (List.append_ne_nil_of_right_ne_nil before (List.cons_ne_nil s after))
    · rw [hstarts] at htail
      have hle := (lineAmong_of_split htail).begin_le
      have hdrop : text.drop (s - n) =
          rest.drop (s - (n + (untilBreak text).length + terminator.length)) := by
        have hdrop := congrArg (List.drop (s - n)) htext
        rw [← List.append_assoc, List.drop_append, List.length_append] at hdrop
        rw [hdrop, List.drop_eq_nil_of_le (by rw [List.length_append]; omega), List.nil_append]
        congr 1
        omega
      rw [hdrop]
      exact ih htail

/-! ## Lines -/

/-- A line of a text, seen from its start: it ends with the text, or with a terminator behind which
the next line starts. -/
inductive LineAt (text : List Char) (s : Nat) : List Nat → Prop
  | last : text.drop s = untilBreak (text.drop s) → LineAt text s []
  | terminated {terminator rest : List Char} (later : List Nat) : Terminates terminator rest →
    text.drop s = untilBreak (text.drop s) ++ (terminator ++ rest) →
    text.drop (s + (untilBreak (text.drop s)).length + terminator.length) = rest →
    LineAt text s ((s + (untilBreak (text.drop s)).length + terminator.length) :: later)

namespace LineTable

variable {text : List Char} {before after : List Nat} {s : Nat}

/-- Every line of a table is one of its text. -/
theorem lineAt_of_split (h : lineStarts text = before ++ s :: after) : LineAt text s after := by
  have hafter : after = lineStartsFrom s (text.drop s) := after_of_split h
  rcases firstLine (text.drop s) s with ⟨hline, hstarts⟩ | ⟨terminator, rest, ht, htext, hstarts⟩
  · rw [hafter, hstarts]
    exact .last hline
  · rw [hafter, hstarts]
    refine .terminated _ ht htext ?_
    rw [Nat.add_assoc, ← List.drop_drop]
    have hdrop := congrArg (List.drop ((untilBreak (text.drop s)).length + terminator.length)) htext
    rwa [← List.append_assoc, List.drop_left' List.length_append] at hdrop

/-- Among offsets in order there is a last one that is not after an offset, unless all of them
are. -/
theorem exists_last_le {o s : Nat} {later : List Nat} (h : (s :: later).Pairwise (· < ·))
    (hs : s ≤ o) :
    ∃ before t after, s :: later = before ++ t :: after ∧ t ≤ o ∧ ∀ x ∈ after, o < x := by
  induction later generalizing s with
  | nil => exact ⟨[], s, [], rfl, hs, fun x hx => nomatch hx⟩
  | cons next later ih =>
    obtain ⟨-, hlater⟩ := List.pairwise_cons.mp h
    by_cases hnext : next ≤ o
    · obtain ⟨before, t, after, hsplit, ht, hafter⟩ := ih hlater hnext
      exact ⟨s :: before, t, after, by rw [hsplit, List.cons_append], ht, hafter⟩
    · refine ⟨[], s, next :: later, rfl, hs, fun x hx => ?_⟩
      rcases List.mem_cons.mp hx with rfl | hx
      · exact Nat.lt_of_not_le hnext
      · exact Nat.lt_trans (Nat.lt_of_not_le hnext) (List.rel_of_pairwise_cons hlater hx)

/-- Every offset of a text is on a line: the last one that does not start after it. -/
theorem exists_split_at (text : List Char) (o : Nat) :
    ∃ before s after, lineStarts text = before ++ s :: after ∧ s ≤ o ∧ ∀ x ∈ after, o < x :=
  exists_last_le (pairwise_lineStarts text) (Nat.zero_le o)

/-! ## Offsets on terminators -/

theorem getElem?_of_drop {back : List Char} (h : text.drop s = back) (i : Nat) :
    text[s + i]? = back[i]? := by
  rw [← List.getElem?_drop, h]

/-- A character of a line, told from the start of the line. -/
theorem getElem?_untilBreak {i : Nat} (hi : i < (untilBreak (text.drop s)).length) :
    text[s + i]? = (untilBreak (text.drop s))[i]? := by
  obtain ⟨back, hback⟩ := List.takeWhile_prefix (l := text.drop s) isWithinLine
  exact (getElem?_of_drop hback.symm i).trans (List.getElem?_append_left hi)

/-- A character behind a line, told from the end of the line. -/
theorem getElem?_behind {back : List Char}
    (htext : text.drop s = untilBreak (text.drop s) ++ back) (i : Nat) :
    text[s + (untilBreak (text.drop s)).length + i]? = back[i]? := by
  rw [Nat.add_assoc]
  refine (getElem?_of_drop htext _).trans ?_
  rw [List.getElem?_append_right (Nat.le_add_right _ i), Nat.add_sub_cancel_left]

/-- No line starts within a terminator. -/
theorem not_withinTerminator_of_split (h : lineStarts text = before ++ s :: after) :
    ¬ WithinTerminator text s := by
  rintro ⟨hpos, hreturn, hfeed⟩
  -- the line before ends just there, with a terminator
  obtain rfl | ⟨front, p, rfl⟩ := before.eq_nil_or_concat
  · obtain ⟨rfl, -⟩ := List.cons.inj h
    exact Nat.lt_irrefl 0 hpos
  rw [List.concat_eq_append, List.append_assoc, List.singleton_append] at h
  cases lineAt_of_split h with
  | terminated later hterminates htext hdrop =>
    have hbehind := getElem?_behind htext
    cases hterminates with
    | crlf rest => cases hreturn.symm.trans (hbehind 1)
    | cr hrest =>
      refine hrest ?_
      rw [List.head?_eq_getElem?]
      exact (hbehind 1).symm.trans hfeed
    | lf rest => cases hreturn.symm.trans (hbehind 0)

/-- An offset on a line is on its text or at its end, unless it is within its terminator. -/
theorem within_cases (h : lineStarts text = before ++ s :: after) {o : Nat} (hs : s ≤ o)
    (hafter : ∀ x ∈ after, o < x) (ho : o ≤ text.length) :
    (o ≤ s + (untilBreak (text.drop s)).length ∧ ¬ WithinTerminator text o) ∨
      (o = s + (untilBreak (text.drop s)).length + 1 ∧ WithinTerminator text o) := by
  obtain rfl | hlt := Nat.eq_or_lt_of_le hs
  · exact .inl ⟨Nat.le_add_right _ _, not_withinTerminator_of_split h⟩
  by_cases hline : o ≤ s + (untilBreak (text.drop s)).length
  · refine .inl ⟨hline, ?_⟩
    rintro ⟨-, hreturn, -⟩
    have hi : o - 1 - s < (untilBreak (text.drop s)).length := by omega
    have hchar := getElem?_untilBreak hi
    rw [show s + (o - 1 - s) = o - 1 by omega, hreturn] at hchar
    exact (not_break_of_mem_untilBreak (List.mem_of_getElem? hchar.symm)).1 rfl
  · cases lineAt_of_split h with
    | last htext =>
      have hlength := congrArg List.length htext
      rw [List.length_drop] at hlength
      omega
    | terminated later hterminates htext hdrop =>
      have hnext := hafter _ List.mem_cons_self
      have hbehind := getElem?_behind htext
      cases hterminates with
      | crlf rest =>
        have hsecond : o = s + (untilBreak (text.drop s)).length + 1 := by
          rw [List.length_cons, List.length_singleton] at hnext
          omega
        refine .inr ⟨hsecond, Nat.zero_lt_of_lt hlt, ?_, ?_⟩
        · rw [hsecond]
          exact hbehind 0
        · rw [hsecond]
          exact hbehind 1
      | cr _ | lf _ =>
        rw [List.length_singleton] at hnext
        omega

/-- The offset of the place of an offset is that offset, unless it is within a terminator. -/
theorem offset_position {o : Nat} (ho : o ≤ text.length) :
    (¬ WithinTerminator text o → (ofText text).offset ((ofText text).position o).1
        (((ofText text).position o).2 - 1) = o) ∧
      (WithinTerminator text o → (ofText text).offset ((ofText text).position o).1
        (((ofText text).position o).2 - 1) = o - 1) := by
  obtain ⟨before, s, after, h, hs, hafter⟩ := exists_split_at text o
  rw [position_of_split_at h hs hafter ho]
  dsimp only
  rw [offset_of_split h]
  rcases within_cases h hs hafter ho with ⟨hle, hwithin⟩ | ⟨heq, hwithin⟩
  · exact ⟨fun _ => by omega, fun hw => absurd hw hwithin⟩
  · exact ⟨fun hw => absurd hwithin hw, fun _ => by omega⟩

/-! ## Order -/

/-- Later offsets have later places. -/
theorem position_lt {o o' : Nat} (hlt : o < o') (ho' : o' ≤ text.length) :
    Prod.Lex (· < ·) (· < ·) ((ofText text).position o) ((ofText text).position o') := by
  obtain ⟨before, s, after, h, hs, hafter⟩ := exists_split_at text o
  obtain ⟨before', s', after', h', hs', hafter'⟩ := exists_split_at text o'
  rw [position_of_split_at h hs hafter (by omega), position_of_split_at h' hs' hafter' ho']
  rcases List.append_eq_append_iff.mp (h.symm.trans h') with
    ⟨mid, hbefore, hmid⟩ | ⟨mid, hbefore, hmid⟩
  · cases mid with
    | nil =>
      -- both are on one line
      obtain ⟨rfl, -⟩ := List.cons.inj hmid
      rw [hbefore, List.append_nil]
      exact .right _ (by omega)
    | cons x mid =>
      refine .left _ _ ?_
      rw [hbefore, List.length_append, List.length_cons]
      omega
  · cases mid with
    | nil =>
      obtain ⟨rfl, -⟩ := List.cons.inj hmid
      rw [hbefore, List.append_nil]
      exact .right _ (by omega)
    | cons x mid =>
      -- the line of the earlier offset cannot start after the later one
      obtain ⟨-, rfl⟩ := List.cons.inj hmid
      have := hafter' s (List.mem_append_right _ List.mem_cons_self)
      omega

/-- The start of a line of a table is among its starts. -/
theorem lineStart_eq_getElem {line : Int} (hcount : line ≤ (ofText text).count) :
    ∃ hi : (max line 1 - 1).toNat < (lineStarts text).length,
      (ofText text).lineStart line = (lineStarts text)[(max line 1 - 1).toNat] := by
  have hpos : 1 ≤ (ofText text).count := Nat.le_add_left 1 _
  have hi : (max line 1 - 1).toNat < (lineStarts text).length := by
    show _ < (ofText text).count
    omega
  refine ⟨hi, ?_⟩
  show (lineStarts text).getD _ _ = _
  rw [List.getD_eq_getElem?_getD, List.getElem?_eq_getElem hi, Option.getD_some]

/-- Later lines do not start earlier. -/
theorem offset_zero_mono {line line' : Int} (hle : line ≤ line') :
    (ofText text).offset line 0 ≤ (ofText text).offset line' 0 := by
  by_cases hcount : line' > (ofText text).count
  · conv => rhs; rw [offset, if_pos hcount]
    exact offset_le_length text line 0
  · have hstart : ∀ l : Int, l ≤ (ofText text).count →
        (ofText text).offset l 0 = (ofText text).lineStart l := by
      intro l hl
      rw [offset, if_neg (by omega)]
      dsimp only
      rw [lineStart, lineStart, Int.max_assoc, Int.max_self]
      omega
    have hbound' : line' ≤ (ofText text).count := by omega
    obtain ⟨hi, hline⟩ := lineStart_eq_getElem (Int.le_trans hle hbound')
    obtain ⟨hi', hline'⟩ := lineStart_eq_getElem hbound'
    rw [hstart _ (by omega), hstart _ (by omega), hline, hline']
    obtain heq | hlt := Nat.eq_or_lt_of_le
      (show (max line 1 - 1).toNat ≤ (max line' 1 - 1).toNat by omega)
    · simp only [heq, Nat.le_refl]
    · exact Nat.le_of_lt
        (List.pairwise_iff_getElem.mp (pairwise_lineStarts text) _ _ hi hi' hlt)

/-! ## Pieces -/

theorem not_break_of_mem_lineText {t : LineTable} {line : Int} {c : Char}
    (hc : c ∈ t.lineText line) : c ≠ '\r' ∧ c ≠ '\n' := by
  unfold lineText at hc
  split at hc
  · cases hc
  · exact of_decide_eq_true (List.all_eq_true.mp List.all_takeWhile c hc)

/-- A piece of a text that is cut at the starts of its lines is a line with its terminator. Only the
last one has none. -/
theorem piece_of_cut {front back : List (List Char)} {piece : List Char}
    (h : cut text (lineStarts text) = front ++ piece :: back) :
    ∃ terminator, piece = (ofText text).lineText (front.length + 1 : Nat) ++ terminator ∧
      (back = [] → terminator = []) ∧ (back ≠ [] → Terminates terminator back.flatten) := by
  have hlength : front.length < (lineStarts text).length := by
    rw [← length_cut text, h, List.length_append, List.length_cons]
    omega
  obtain ⟨before, s, after, hsplit, hbefore⟩ := exists_eq_append_cons hlength
  obtain ⟨front', hfront', hcut⟩ := cut_append text s after before
  rw [← hsplit, h] at hcut
  obtain ⟨-, hpiece⟩ := List.append_inj hcut (by rw [hfront', hbefore])
  rw [← hbefore, lineText_of_split hsplit]
  have hordered := pairwise_lineStarts text
  rw [hsplit] at hordered
  have hbehind := (List.pairwise_cons.mp (List.pairwise_append.mp hordered).2.1).2
  cases lineAt_of_split hsplit with
  | last htext =>
    obtain ⟨rfl, rfl⟩ := List.cons.inj hpiece
    exact ⟨[], by rw [List.append_nil]; exact htext, fun _ => rfl, fun hne => absurd rfl hne⟩
  | @terminated terminator rest later hterminates htext hrest =>
    rw [cut] at hpiece
    obtain ⟨rfl, rfl⟩ := List.cons.inj hpiece
    refine ⟨terminator, ?_, fun hnil => ?_, fun _ => ?_⟩
    · have hlength : s + (untilBreak (text.drop s)).length + terminator.length - s =
          (untilBreak (text.drop s) ++ terminator).length := by
        rw [List.length_append]
        omega
      have htake := congrArg (List.take (untilBreak (text.drop s) ++ terminator).length) htext
      rw [hlength]
      rwa [← List.append_assoc, List.take_left] at htake
    · have := length_cut text ((s + (untilBreak (text.drop s)).length + terminator.length) :: later)
      rw [hnil] at this
      cases this
    · rw [flatten_cut hbehind, hrest]
      exact hterminates

/-- What a table tells of its text. -/
structure Faithful (t : LineTable) : Prop where
  first : t.starts.head? = some 0
  ordered : t.starts.Pairwise (· < ·)
  bounded : ∀ s ∈ t.starts, s ≤ t.text.length
  /-- Cut at the starts, the text has a piece for each line, and nothing is lost. -/
  count : (cut t.text t.starts).length = t.count
  flatten : (cut t.text t.starts).flatten = t.text
  pieces : ∀ front piece back, cut t.text t.starts = front ++ piece :: back →
    ∃ terminator, piece = t.lineText (front.length + 1 : Nat) ++ terminator ∧
      (back = [] → terminator = []) ∧ (back ≠ [] → Terminates terminator back.flatten)
  within : ∀ line : Int, ∀ c ∈ t.lineText line, c ≠ '\r' ∧ c ≠ '\n'
  /-- The place of an offset that was told from a place is that place, with the column moved to the
  nearest one on its line. -/
  place : ∀ line : Nat, ∀ column : Int, 1 ≤ line → line ≤ t.count →
    t.position (t.offset line column) =
      (line, (min (max column 0) (t.lineText line).length).toNat + 1)
  /-- The offset of a place that was told from an offset is that offset, or the one before it within
  a terminator. -/
  offset : ∀ o ≤ t.text.length,
    (¬ WithinTerminator t.text o → t.offset (t.position o).1 ((t.position o).2 - 1) = o) ∧
      (WithinTerminator t.text o → t.offset (t.position o).1 ((t.position o).2 - 1) = o - 1)
  increasing : ∀ o o' : Nat, o < o' → o' ≤ t.text.length →
    Prod.Lex (· < ·) (· < ·) (t.position o) (t.position o')
  nondecreasing : ∀ line line' : Int, line ≤ line' → t.offset line 0 ≤ t.offset line' 0

/-- A table is faithful to its text, whatever terminators there are in it. -/
theorem table_faithful (t : LineTable) : t.Faithful := by
  obtain ⟨text, starts, rfl⟩ := t
  exact
    { first := rfl
      ordered := pairwise_lineStarts text
      bounded := by
        intro s hs
        obtain ⟨before, after, h⟩ := List.append_of_mem hs
        exact Nat.zero_add text.length ▸ (lineAmong_of_split h).le_end
      count := length_cut text _
      flatten := flatten_cut (pairwise_lineStarts text)
      pieces := fun _ _ _ h => piece_of_cut h
      within := fun _ _ hc => not_break_of_mem_lineText hc
      place := fun _ column hpos hcount => position_offset hpos hcount column
      offset := fun _ ho => offset_position ho
      increasing := fun _ _ hlt ho => position_lt hlt ho
      nondecreasing := fun _ _ hle => offset_zero_mono hle }

/-- All terminators in one text, and an empty line between two of them. -/
example : (ofText "a\r\nb\r\n\rc\n".toList).starts = [0, 3, 6, 7, 9] := by decide

end LineTable

end Playground.Text
