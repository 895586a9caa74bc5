import Mathlib.Algebra.GroupWithZero.Nat
import Playground.Text.LineTable

/-!
# The theory of line tables

Where the lines of a text start, told from one of the starts: those before it, the start, and those
after it.

- `lineAmong_of_split`: the end of a line, its terminator left out, comes before every later start.
- `offset_of_split` and `position_of_split`: the two translations of a table, on a line told in
  this way, undo each other.
- `offset_le_length` and `offset_add_lineText_le`: whatever the line and the column are, a table
  tells offsets within the text, and a line ends within it.
- `lineStartsFrom_append`: the starts of two texts joined are those of the texts, unless the joint
  makes one terminator out of two.
-/

namespace Playground.Text

/-- Whether a character does not end its line. -/
def isWithinLine (c : Char) : Bool :=
  decide (c ≠ '\r' ∧ c ≠ '\n')

/-- A text up to the first line terminator. -/
def untilBreak (text : List Char) : List Char :=
  text.takeWhile isWithinLine

theorem untilBreak_cons_of_not {c : Char} (rest : List Char) (hc : c = '\r' ∨ c = '\n') :
    untilBreak (c :: rest) = [] := by
  rw [untilBreak, List.takeWhile_cons_of_neg]
  rcases hc with rfl | rfl <;> decide

theorem untilBreak_cons {c : Char} (rest : List Char) (hc : ¬ (c = '\r' ∨ c = '\n')) :
    untilBreak (c :: rest) = c :: untilBreak rest := by
  rw [untilBreak, List.takeWhile_cons_of_pos]
  · rfl
  · simpa [isWithinLine] using hc

/-- What follows a text on the next line does not lengthen the last line of the text. -/
theorem untilBreak_append (text : List Char) {back : List Char}
    (hback : back = [] ∨ back.head? = some '\n') :
    untilBreak (text ++ back) = untilBreak text := by
  have hempty : untilBreak back = [] := by
    cases back with
    | nil => rfl
    | cons c back =>
      have hc : c = '\n' := by simpa using hback
      exact untilBreak_cons_of_not back (.inr hc)
  induction text with
  | nil => exact hempty
  | cons c text ih =>
    by_cases hc : c = '\r' ∨ c = '\n'
    · rw [List.cons_append, untilBreak_cons_of_not _ hc, untilBreak_cons_of_not _ hc]
    · rw [List.cons_append, untilBreak_cons _ hc, untilBreak_cons _ hc, ih]

/-! ## Starts of lines -/

theorem lineStartsFrom_crlf (n : Nat) (rest : List Char) :
    lineStartsFrom n ('\r' :: '\n' :: rest) = (n + 2) :: lineStartsFrom (n + 2) rest := by
  rw [lineStartsFrom]

theorem lineStartsFrom_break (n : Nat) {c : Char} {rest : List Char} (hc : c = '\r' ∨ c = '\n')
    (hjoint : ¬ (c = '\r' ∧ rest.head? = some '\n')) :
    lineStartsFrom n (c :: rest) = (n + 1) :: lineStartsFrom (n + 1) rest := by
  rw [lineStartsFrom, if_pos hc]
  rintro rest' rfl rfl
  exact hjoint ⟨rfl, rfl⟩

theorem lineStartsFrom_within (n : Nat) {c : Char} (rest : List Char)
    (hc : ¬ (c = '\r' ∨ c = '\n')) :
    lineStartsFrom n (c :: rest) = lineStartsFrom (n + 1) rest := by
  rw [lineStartsFrom, if_neg hc]
  rintro rest' rfl -
  exact hc (.inl rfl)

/-- Induction on a text by its line terminators: a carriage return with the line feed after it is
one step, and so is every other character. -/
theorem lineInduction {motive : List Char → Prop} (nil : motive [])
    (crlf : ∀ rest, motive rest → motive ('\r' :: '\n' :: rest))
    (terminator : ∀ c rest, (c = '\r' ∨ c = '\n') → ¬ (c = '\r' ∧ rest.head? = some '\n') →
      motive rest → motive (c :: rest))
    (within : ∀ c rest, ¬ (c = '\r' ∨ c = '\n') → motive rest → motive (c :: rest)) :
    ∀ text, motive text
  | [] => nil
  | c :: rest => by
    have ih := lineInduction nil crlf terminator within rest
    by_cases hc : c = '\r' ∨ c = '\n'
    · by_cases hjoint : c = '\r' ∧ rest.head? = some '\n'
      · obtain ⟨rfl, hhead⟩ := hjoint
        cases rest with
        | nil => cases hhead
        | cons d rest =>
          obtain rfl : d = '\n' := by simpa using hhead
          exact crlf rest (lineInduction nil crlf terminator within rest)
      · exact terminator c rest hc hjoint ih
    · exact within c rest hc ih
  termination_by text => text.length

/-- The starts of a text that begins later are so much later. -/
theorem lineStartsFrom_add (k : Nat) (text : List Char) (n : Nat) :
    lineStartsFrom (k + n) text = (lineStartsFrom n text).map (k + ·) := by
  induction text using lineInduction generalizing n with
  | nil => rfl
  | crlf rest ih => rw [lineStartsFrom_crlf, lineStartsFrom_crlf, Nat.add_assoc, ih]; rfl
  | terminator c rest hc hjoint ih =>
    rw [lineStartsFrom_break _ hc hjoint, lineStartsFrom_break _ hc hjoint, Nat.add_assoc, ih]
    rfl
  | within c rest hc ih =>
    rw [lineStartsFrom_within _ _ hc, lineStartsFrom_within _ _ hc, Nat.add_assoc, ih]

theorem lt_of_mem_lineStartsFrom {text : List Char} {n x : Nat}
    (hx : x ∈ lineStartsFrom n text) : n < x := by
  induction text using lineInduction generalizing n with
  | nil => cases hx
  | crlf rest ih =>
    rw [lineStartsFrom_crlf] at hx
    rcases List.mem_cons.mp hx with rfl | hx
    · omega
    · have := ih hx
      omega
  | terminator c rest hc hjoint ih =>
    rw [lineStartsFrom_break _ hc hjoint] at hx
    rcases List.mem_cons.mp hx with rfl | hx
    · omega
    · have := ih hx
      omega
  | within c rest hc ih =>
    rw [lineStartsFrom_within _ _ hc] at hx
    have := ih hx
    omega

/-! ## Lines among lines -/

/-- A start of a line among those of a text that begins at `n`: the starts before it and after it
are in order, and the end of its line comes before every later start. -/
structure LineAmong (text : List Char) (n : Nat) (before : List Nat) (s : Nat) (after : List Nat) :
    Prop where
  lt : ∀ x ∈ before, x < s
  begin_le : n ≤ s
  le_end : s ≤ n + text.length
  stop_lt : ∀ x ∈ after, s + (untilBreak (text.drop (s - n))).length < x

/-- The first line of a text. -/
theorem LineAmong.first {text : List Char} {n : Nat} {after : List Nat}
    (h : ∀ x ∈ after, n + (untilBreak text).length < x) : LineAmong text n [] n after where
  lt _ hx := nomatch hx
  begin_le := Nat.le_refl n
  le_end := Nat.le_add_right _ _
  stop_lt := by rwa [Nat.sub_self]

/-- A line of what follows some characters of a text is a line of the text. -/
theorem LineAmong.later {text : List Char} {n k s : Nat} {before after : List Nat} (hk : 0 < k)
    (hlen : k ≤ text.length) (h : LineAmong (text.drop k) (n + k) before s after) :
    LineAmong text n (n :: before) s after where
  lt x hx := by
    have := h.begin_le
    rcases List.mem_cons.mp hx with rfl | hx
    · omega
    · exact h.lt x hx
  begin_le := by
    have := h.begin_le
    omega
  le_end := by
    have := h.le_end
    rw [List.length_drop] at this
    omega
  stop_lt := by
    have hle := h.begin_le
    have hstop := h.stop_lt
    rw [List.drop_drop, show k + (s - (n + k)) = s - n by omega] at hstop
    exact hstop

/-- A line after a terminator. -/
theorem LineAmong.afterBreak {text : List Char} {n k s : Nat} {before after : List Nat}
    (hk : 0 < k) (hlen : k ≤ text.length) (hbreak : untilBreak text = [])
    (h : n :: (n + k) :: lineStartsFrom (n + k) (text.drop k) = before ++ s :: after)
    (ih : ∀ {before : List Nat}, (n + k) :: lineStartsFrom (n + k) (text.drop k) =
      before ++ s :: after → LineAmong (text.drop k) (n + k) before s after) :
    LineAmong text n before s after := by
  cases before with
  | nil =>
    obtain ⟨rfl, rfl⟩ := List.cons.inj h
    refine .first fun x hx => ?_
    rw [hbreak, List.length_nil]
    rcases List.mem_cons.mp hx with rfl | hx
    · omega
    · have := lt_of_mem_lineStartsFrom hx
      omega
  | cons y before =>
    obtain ⟨rfl, htail⟩ := List.cons.inj h
    exact (ih htail).later hk hlen

/-- Every start of a line lies in order among the others. The induction is on the terminators of
the text. -/
theorem lineAmong_of_split {text : List Char} {n s : Nat} {before after : List Nat}
    (h : n :: lineStartsFrom n text = before ++ s :: after) : LineAmong text n before s after := by
  induction text using lineInduction generalizing n before s with
  | nil =>
    cases before with
    | nil =>
      obtain ⟨rfl, rfl⟩ := List.cons.inj h
      exact .first fun x hx => nomatch hx
    | cons x before => simp [lineStartsFrom] at h
  | crlf rest ih =>
    rw [lineStartsFrom_crlf] at h
    exact .afterBreak (k := 2) (by omega) (by simp) (untilBreak_cons_of_not _ (.inl rfl)) h ih
  | terminator c rest hc hjoint ih =>
    rw [lineStartsFrom_break _ hc hjoint] at h
    exact .afterBreak (k := 1) (by omega) (by simp) (untilBreak_cons_of_not _ hc) h ih
  | within c rest hc ih =>
    rw [lineStartsFrom_within _ _ hc] at h
    -- the first line starts one character before that of `rest`, all others are the same
    cases before with
    | nil =>
      obtain ⟨rfl, rfl⟩ := List.cons.inj h
      have hrest : LineAmong rest (n + 1) [] (n + 1) (lineStartsFrom (n + 1) rest) := ih rfl
      refine .first fun x hx => ?_
      have hstop := hrest.stop_lt x hx
      rw [Nat.sub_self, List.drop_zero] at hstop
      rw [untilBreak_cons _ hc, List.length_cons]
      omega
    | cons x before =>
      obtain ⟨rfl, htail⟩ := List.cons.inj h
      have hrest : LineAmong rest (n + 1) ((n + 1) :: before) s after := ih (by rw [htail]; rfl)
      have hline : LineAmong (c :: rest) n (n :: (n + 1) :: before) s after :=
        hrest.later Nat.one_pos (Nat.le_add_left 1 _)
      exact { hline with lt := fun x hx => hline.lt x (by
        rcases List.mem_cons.mp hx with rfl | hx
        · exact List.mem_cons_self
        · exact List.mem_cons_of_mem _ (List.mem_cons_of_mem _ hx)) }

/-! ## Tables -/

namespace LineTable

variable {text : List Char} {before after : List Nat} {s : Nat}

/-- A list, seen from one of its elements. -/
theorem exists_eq_append_cons {α : Type} {xs : List α} {i : Nat} (hi : i < xs.length) :
    ∃ before x after, xs = before ++ x :: after ∧ before.length = i := by
  refine ⟨xs.take i, xs[i], xs.drop (i + 1), ?_, ?_⟩
  · rw [List.getElem_cons_drop, List.take_append_drop]
  · rw [List.length_take]
    omega

/-- Every line of a table has a start among the others. -/
theorem exists_split {j : Nat} (hj : 1 ≤ j) (hcount : j ≤ (ofText text).count) :
    ∃ before s after, lineStarts text = before ++ s :: after ∧ j = before.length + 1 := by
  have hlt : j - 1 < (lineStarts text).length := by
    show j - 1 < (ofText text).count
    omega
  obtain ⟨before, s, after, h, hlen⟩ := exists_eq_append_cons hlt
  exact ⟨before, s, after, h, by omega⟩

theorem count_of_split (h : lineStarts text = before ++ s :: after) :
    (ofText text).count = before.length + 1 + after.length := by
  show (lineStarts text).length = _
  rw [h, List.length_append, List.length_cons]
  omega

theorem lineStart_of_split (h : lineStarts text = before ++ s :: after) :
    (ofText text).lineStart (before.length + 1 : Nat) = s := by
  show (lineStarts text).getD _ _ = s
  rw [show (max ((before.length + 1 : Nat) : Int) 1 - 1).toNat = before.length by omega, h]
  simp

/-- A text that is cut off behind its first line has the same first line. -/
theorem untilBreak_take (text : List Char) {k : Nat} (hk : (untilBreak text).length ≤ k) :
    untilBreak (text.take k) = untilBreak text := by
  induction text generalizing k with
  | nil => rw [List.take_nil]
  | cons c text ih =>
    by_cases hc : c = '\r' ∨ c = '\n'
    · rw [untilBreak_cons_of_not _ hc]
      cases k with
      | zero => rfl
      | succ k => rw [List.take_succ_cons, untilBreak_cons_of_not _ hc]
    · rw [untilBreak_cons _ hc, List.length_cons] at hk
      obtain ⟨k, rfl⟩ : ∃ j, k = j + 1 := ⟨k - 1, by omega⟩
      rw [List.take_succ_cons, untilBreak_cons _ hc, untilBreak_cons _ hc, ih (by omega)]

/-- The text of a line reaches from its start to the next terminator. -/
theorem lineText_of_split (h : lineStarts text = before ++ s :: after) :
    (ofText text).lineText (before.length + 1 : Nat) = untilBreak (text.drop s) := by
  have hcount := count_of_split h
  have hline := lineAmong_of_split h
  rw [lineText, if_neg (by omega), lineStart_of_split h]
  -- the table cuts the text off at the next start, which is behind the terminator of the line
  refine untilBreak_take _ ?_
  have hnext : (lineStarts text).getD (before.length + 1) text.length = after.headD text.length := by
    rw [h, List.getD_eq_getElem?_getD, List.getElem?_append_right (Nat.le_succ _),
      show before.length + 1 - before.length = 0 + 1 by omega]
    cases after <;> rfl
  show (untilBreak (text.drop s)).length ≤
    (lineStarts text).getD (before.length + 1) text.length - s
  rw [hnext]
  cases after with
  | nil =>
    rw [List.headD_nil, ← List.length_drop]
    exact (List.takeWhile_prefix _).length_le
  | cons x after =>
    have hstop := hline.stop_lt x List.mem_cons_self
    rw [Nat.sub_zero] at hstop
    rw [List.headD_cons]
    omega

/-- The offset of a column is as far from the start of its line as the column says, if the line is
that long. -/
theorem offset_of_split (h : lineStarts text = before ++ s :: after) (column : Int) :
    (ofText text).offset (before.length + 1 : Nat) column =
      s + (min (max column 0) (untilBreak (text.drop s)).length).toNat := by
  have hcount := count_of_split h
  rw [offset, if_neg (by omega)]
  show (ofText text).lineStart (max ((before.length + 1 : Nat) : Int) 1) + _ = _
  rw [show max ((before.length + 1 : Nat) : Int) 1 = (before.length + 1 : Nat) by omega,
    lineStart_of_split h, lineText_of_split h]

/-- The text of a line fits behind its start. -/
theorem add_length_untilBreak_le (h : lineStarts text = before ++ s :: after) :
    s + (untilBreak (text.drop s)).length ≤ text.length := by
  have hle := (lineAmong_of_split h).le_end
  have hprefix := (List.takeWhile_prefix (l := text.drop s) isWithinLine).length_le
  rw [List.length_drop] at hprefix
  unfold untilBreak
  omega

/-- A table tells offsets within the text only. -/
theorem offset_le {j : Nat} (hj : 1 ≤ j) (hcount : j ≤ (ofText text).count) (column : Int) :
    (ofText text).offset j column ≤ text.length := by
  obtain ⟨before, s, after, h, rfl⟩ := exists_split hj hcount
  have := add_length_untilBreak_le h
  rw [offset_of_split h]
  omega

/-- A table tells offsets within the text whatever the line and the column are. -/
theorem offset_le_length (text : List Char) (line column : Int) :
    (ofText text).offset line column ≤ text.length := by
  by_cases hafter : line > (ofText text).count
  · rw [offset, if_pos hafter]
    exact Nat.le_refl _
  · have hcount : 1 ≤ (ofText text).count := Nat.le_add_left 1 _
    obtain ⟨j, hj⟩ : ∃ j : Nat, max line 1 = j := ⟨(max line 1).toNat, by omega⟩
    have hsame : (ofText text).offset line column = (ofText text).offset j column := by
      rw [offset, offset, if_neg hafter, if_neg (by omega), ← hj]
      dsimp only
      rw [Int.max_assoc, Int.max_self]
    rw [hsame]
    exact offset_le (by omega) (by omega) column

/-- A column is at most so far from the start of its line as it says. -/
theorem offset_le_add (t : LineTable) (line : Int) (column : Nat) :
    t.offset line column ≤ t.offset line 0 + column := by
  unfold offset
  dsimp only
  split <;> omega

/-- A later column of a line is not before an earlier one. -/
theorem offset_mono (t : LineTable) (line : Int) {column column' : Int} (hle : column ≤ column') :
    t.offset line column ≤ t.offset line column' := by
  unfold offset
  dsimp only
  split <;> omega

theorem offset_zero_le (t : LineTable) (line column : Int) :
    t.offset line 0 ≤ t.offset line column := by
  unfold offset
  dsimp only
  split <;> omega

/-- A line ends within the text. -/
theorem offset_add_lineText_le (text : List Char) (line : Int) :
    (ofText text).offset line 0 + ((ofText text).lineText line).length ≤ text.length := by
  by_cases hline : line < 1 ∨ line > (ofText text).count
  · rw [lineText, if_pos hline]
    exact offset_le_length text line 0
  · obtain ⟨j, rfl⟩ : ∃ j : Nat, line = j := ⟨line.toNat, by omega⟩
    have hcount : j ≤ (ofText text).count := by omega
    obtain ⟨before, s, after, h, rfl⟩ := exists_split (by omega) hcount
    have hfits := add_length_untilBreak_le h
    rw [lineText_of_split h, offset_of_split h]
    omega

/-- The place of an offset is told from the last start that is not after it. -/
theorem position_of_le {o : Nat} (ho : o ≤ text.length) :
    (ofText text).position o =
      (((lineStarts text).takeWhile (· ≤ o)).length,
        o - ((lineStarts text).takeWhile (· ≤ o)).getLastD 0 + 1) := by
  have hclamp : (min (max (o : Int) 0) (ofText text).text.length).toNat = o := by
    show (min (max (o : Int) 0) text.length).toNat = o
    omega
  simp only [position, hclamp]
  rfl

/-- The place of an offset is told from the last start that is not after it, seen among the others. -/
theorem position_of_split_at (h : lineStarts text = before ++ s :: after) {o : Nat} (hs : s ≤ o)
    (hafter : ∀ x ∈ after, o < x) (ho : o ≤ text.length) :
    (ofText text).position o = (before.length + 1, o - s + 1) := by
  have hline := lineAmong_of_split h
  have hupTo : (lineStarts text).takeWhile (fun x => decide (x ≤ o)) = before ++ [s] := by
    rw [h, List.takeWhile_append_of_pos, List.takeWhile_cons_of_pos (by simpa using hs)]
    · cases after with
      | nil => rfl
      | cons x after =>
        have := hafter x List.mem_cons_self
        rw [List.takeWhile_cons_of_neg (by simp; omega)]
    · intro x hx
      have := hline.lt x hx
      simp
      omega
  rw [position_of_le ho, hupTo, List.length_append, List.getLastD_concat]
  rfl

/-- The place of an offset on a line is that line, and the distance from its start. -/
theorem position_of_split (h : lineStarts text = before ++ s :: after) {column : Nat}
    (hcolumn : column ≤ (untilBreak (text.drop s)).length) :
    (ofText text).position (s + column : Nat) = (before.length + 1, column + 1) := by
  have hwithin : s + column ≤ text.length := by
    have := add_length_untilBreak_le h
    omega
  -- the next start is behind the end of the line, so behind the column too
  have hafter : ∀ x ∈ after, s + column < x := by
    intro x hx
    have := (lineAmong_of_split h).stop_lt x hx
    rw [Nat.sub_zero] at this
    omega
  rw [position_of_split_at h (Nat.le_add_right s column) hafter hwithin, Nat.add_sub_cancel_left]

/-- The place of an offset that a table has told from a line and a column is that line, and the
column on it. -/
theorem position_offset {j : Nat} (hj : 1 ≤ j) (hcount : j ≤ (ofText text).count) (column : Int) :
    (ofText text).position ((ofText text).offset j column) =
      (j, (min (max column 0) ((ofText text).lineText j).length).toNat + 1) := by
  obtain ⟨before, s, after, h, rfl⟩ := exists_split hj hcount
  rw [offset_of_split h, lineText_of_split h, position_of_split h (by omega)]

end LineTable

/-! ## Joined texts -/

/-- The starts of two texts joined are those of the texts, unless the joint makes one terminator
out of two. -/
theorem lineStartsFrom_append {front rest : List Char} (n : Nat)
    (hjoint : ¬ (front.getLast? = some '\r' ∧ rest.head? = some '\n')) :
    lineStartsFrom n (front ++ rest) =
      lineStartsFrom n front ++ lineStartsFrom (n + front.length) rest := by
  have hlast : ∀ {c : Char} {cs : List Char}, cs.getLast? = some '\r' →
      (c :: cs).getLast? = some '\r' := by
    intro c cs hcs
    rw [List.getLast?_cons, hcs]
    rfl
  induction front using lineInduction generalizing n with
  | nil => rfl
  | crlf cs ih =>
    rw [List.cons_append, List.cons_append, lineStartsFrom_crlf, lineStartsFrom_crlf,
      ih _ fun h => hjoint ⟨hlast (hlast h.1), h.2⟩, List.length_cons, List.length_cons,
      List.cons_append]
    rw [show n + (cs.length + 1 + 1) = n + 2 + cs.length by omega]
  | terminator c cs hc hsingle ih =>
    -- only at the joint can the next character be one of `rest`
    have hhead : ¬ (c = '\r' ∧ (cs ++ rest).head? = some '\n') := by
      rintro ⟨rfl, hnext⟩
      cases cs with
      | nil => exact hjoint ⟨rfl, hnext⟩
      | cons d cs => exact hsingle ⟨rfl, hnext⟩
    rw [List.cons_append, lineStartsFrom_break _ hc hhead, lineStartsFrom_break _ hc hsingle,
      ih _ fun h => hjoint ⟨hlast h.1, h.2⟩, List.length_cons, List.cons_append]
    rw [show n + (cs.length + 1) = n + 1 + cs.length by omega]
  | within c cs hc ih =>
    rw [List.cons_append, lineStartsFrom_within _ _ hc, lineStartsFrom_within _ _ hc,
      ih _ fun h => hjoint ⟨hlast h.1, h.2⟩, List.length_cons]
    rw [show n + (cs.length + 1) = n + 1 + cs.length by omega]

/-- A line feed after a text ends one more line, or joins the carriage return before it. -/
theorem lineStartsFrom_concat (n : Nat) (text : List Char) :
    lineStartsFrom n (text ++ ['\n']) =
      (if text.getLast? = some '\r' then (lineStartsFrom n text).dropLast
        else lineStartsFrom n text) ++ [n + text.length + 1] := by
  by_cases h : text.getLast? = some '\r'
  · obtain ⟨front, rfl⟩ := List.getLast?_eq_some_iff.mp h
    rw [if_pos h, List.append_assoc, lineStartsFrom_append n (by simp),
      lineStartsFrom_append n (by simp)]
    show _ ++ lineStartsFrom _ ['\r', '\n'] = (_ ++ [_]).dropLast ++ _
    rw [List.dropLast_concat, lineStartsFrom_crlf, List.length_append, List.length_singleton]
    rfl
  · rw [if_neg h, lineStartsFrom_append n fun hj => h hj.1]
    rfl

/-- A text with which a line ends, so that whatever follows begins a line of its own. -/
def IsClosed (text : List Char) : Prop :=
  text = [] ∨ text.getLast? = some '\n'

theorem isClosed_flatMap {α : Type} (f : α → List Char) (xs : List α) :
    IsClosed (xs.flatMap fun x => f x ++ ['\n']) := by
  rcases List.eq_nil_or_concat xs with rfl | ⟨xs, x, rfl⟩
  · exact .inl rfl
  · exact .inr (by simp)

theorem isClosed_append {text rest : List Char} (htext : IsClosed text) (hrest : IsClosed rest) :
    IsClosed (text ++ rest) := by
  rcases hrest with rfl | hrest
  · rwa [List.append_nil]
  · exact .inr (by rw [List.getLast?_append, hrest]; rfl)

theorem IsClosed.not_joint {text rest : List Char} (h : IsClosed text) :
    ¬ (text.getLast? = some '\r' ∧ rest.head? = some '\n') := by
  rintro ⟨hlast, -⟩
  rcases h with rfl | h
  · cases hlast
  · rw [h] at hlast
    exact absurd hlast (by decide)

/-- The last line of a closed text is empty and starts at the end of the text. -/
theorem lineStarts_of_closed {text : List Char} (h : IsClosed text) :
    lineStarts text = (lineStarts text).dropLast ++ [text.length] := by
  rcases h with rfl | h
  · rfl
  · obtain ⟨front, rfl⟩ := List.getLast?_eq_some_iff.mp h
    rw [lineStarts, lineStartsFrom_concat, ← List.cons_append, List.dropLast_concat,
      List.length_append, List.length_singleton, Nat.zero_add]

/-- The lines of what follows a closed text come after the lines of that text, the empty last one
left out. -/
theorem lineStarts_append_of_closed {front : List Char} (h : IsClosed front) (rest : List Char) :
    lineStarts (front ++ rest) =
      (lineStarts front).dropLast ++ (lineStarts rest).map (front.length + ·) := by
  have hshift := lineStartsFrom_add front.length rest 0
  calc lineStarts (front ++ rest)
      = lineStarts front ++ lineStartsFrom (0 + front.length) rest := by
        rw [lineStarts, lineStartsFrom_append 0 h.not_joint, lineStarts, List.cons_append]
    _ = (lineStarts front).dropLast ++ [front.length] ++ lineStartsFrom (0 + front.length) rest := by
        rw [← lineStarts_of_closed h]
    _ = (lineStarts front).dropLast ++ (lineStarts rest).map (front.length + ·) := by
        rw [Nat.zero_add, ← Nat.add_zero front.length, hshift, List.append_assoc]
        rfl

/-- A line of a text is still there when the text is followed by another line, save an empty last
line after a carriage return: a line feed there makes one terminator out of two. -/
theorem lineStarts_append_of_split {text back : List Char} {before after : List Nat} {s : Nat}
    (h : lineStarts text = before ++ s :: after)
    (hkeep : ¬ (after = [] ∧ text.getLast? = some '\r' ∧ back ≠ [])) :
    ∃ later, lineStarts (text ++ back) = before ++ s :: later := by
  by_cases hjoint : text.getLast? = some '\r' ∧ back.head? = some '\n'
  · obtain ⟨hlast, hhead⟩ := hjoint
    obtain ⟨front, rfl⟩ := List.getLast?_eq_some_iff.mp hlast
    have hne : back ≠ [] := by
      rintro rfl
      cases hhead
    -- the last start, behind the carriage return, moves behind the line feed; it is not `s`
    obtain ⟨init, x, rfl⟩ : ∃ init x, after = init ++ [x] := by
      have hafter : after ≠ [] := fun hnil => hkeep ⟨hnil, hlast, hne⟩
      exact ⟨after.dropLast, after.getLast hafter, (List.dropLast_concat_getLast hafter).symm⟩
    have hsafe : ∀ rest, ¬ (front.getLast? = some '\r' ∧
        ('\r' :: rest).head? = some '\n') := by simp
    have hfront : 0 :: lineStartsFrom 0 front = before ++ s :: init := by
      rw [lineStarts, lineStartsFrom_append 0 (hsafe []), ← List.cons_append, ← List.cons_append,
        ← List.append_assoc] at h
      exact List.append_inj_left' h rfl
    refine ⟨init ++ lineStartsFrom (0 + front.length) ('\r' :: back), ?_⟩
    rw [lineStarts, List.append_assoc, List.singleton_append, lineStartsFrom_append 0 (hsafe back),
      ← List.cons_append, hfront, List.append_assoc, List.cons_append]
  · refine ⟨after ++ lineStartsFrom (0 + text.length) back, ?_⟩
    rw [lineStarts, lineStartsFrom_append 0 hjoint, ← List.cons_append, ← lineStarts, h,
      List.append_assoc, List.cons_append]

/-! ## Counting lines -/

/-- A text without terminators is a single line. -/
theorem lineStartsFrom_eq_nil {text : List Char} (h : '\r' ∉ text ∧ '\n' ∉ text) (n : Nat) :
    lineStartsFrom n text = [] := by
  induction text generalizing n with
  | nil => rfl
  | cons c text ih =>
    have hc : ¬ (c = '\r' ∨ c = '\n') := by
      rintro (rfl | rfl)
      · exact h.1 List.mem_cons_self
      · exact h.2 List.mem_cons_self
    rw [lineStartsFrom_within _ _ hc,
      ih ⟨fun hm => h.1 (List.mem_cons_of_mem _ hm), fun hm => h.2 (List.mem_cons_of_mem _ hm)⟩]

/-- With a line feed after it a text has one more line, unless the line feed joins a carriage
return. -/
theorem length_lineStartsFrom_concat (n : Nat) (text : List Char) :
    (lineStartsFrom n (text ++ ['\n'])).length =
      (lineStarts text).length - if text.getLast? = some '\r' then 1 else 0 := by
  have hlen : (lineStartsFrom n text).length + 1 = (lineStarts text).length := by
    rw [← Nat.add_zero n, lineStartsFrom_add, List.length_map]
    rfl
  rw [lineStartsFrom_concat, List.length_append, List.length_singleton]
  split
  · next h =>
    obtain ⟨front, rfl⟩ := List.getLast?_eq_some_iff.mp h
    -- the carriage return has a start that can be dropped
    have hpos : 0 < (lineStartsFrom n (front ++ ['\r'])).length := by
      rw [lineStartsFrom_append n (by simp), List.length_append]
      exact Nat.lt_add_left _ Nat.one_pos
    rw [List.length_dropLast]
    omega
  · rw [hlen, Nat.sub_zero]

/-- The terminators of texts that each end with a line feed add up. -/
theorem length_lineStartsFrom_flatMap {α : Type} (f : α → List Char) (xs : List α) (n : Nat) :
    (lineStartsFrom n (xs.flatMap fun x => f x ++ ['\n'])).length =
      (xs.map fun x => (lineStarts (f x)).length -
        if (f x).getLast? = some '\r' then 1 else 0).sum := by
  induction xs generalizing n with
  | nil => rfl
  | cons x xs ih =>
    have hclosed : IsClosed (f x ++ ['\n']) := .inr (by simp)
    rw [List.flatMap_cons, lineStartsFrom_append n hclosed.not_joint, List.length_append,
      length_lineStartsFrom_concat, ih, List.map_cons, List.sum_cons]

end Playground.Text
