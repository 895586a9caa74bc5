import Playground.Host.Exception

/-!
# What can be shown and described

Which values have a text, and which exceptions can be described. A value has a text iff its numbers
are short enough and the stack has room for it. An exception can be described unless it is a fault
of a source text, whose place may be made of any values; a place as readers of source texts give it
does no harm.

- `Value.Fits` and `isOk_shown_iff`: the values that have a text.
- `Exception.IsPlain` and `exists_describe`: exceptions that can be described.
-/

namespace Playground.Host

/-! ## Values -/

namespace Value

mutual

/-- How deeply values stand in a value. -/
def depth : Value → Nat
  | .list vs | .tuple vs => depthAll vs + 1
  | .dict es => depthEntries es + 1
  | _ => 1

def depthAll : List Value → Nat
  | [] => 0
  | v :: vs => max (depth v) (depthAll vs)

def depthEntries : List (String × Value) → Nat
  | [] => 0
  | (_, v) :: es => max (depth v) (depthEntries es)

end

mutual

/-- The whole numbers in a value. -/
def numbers : Value → List Int
  | .int n => [n]
  | .list vs | .tuple vs => numbersAll vs
  | .dict es => numbersEntries es
  | _ => []

def numbersAll : List Value → List Int
  | [] => []
  | v :: vs => numbers v ++ numbersAll vs

def numbersEntries : List (String × Value) → List Int
  | [] => []
  | (_, v) :: es => numbers v ++ numbersEntries es

end

/-- Numbers that are short enough for a text. -/
def AreShort (numbers : List Int) : Prop :=
  ∀ n ∈ numbers, Decimal.digitCount n.natAbs ≤ Text.maxDigits

/-- A value that has a text where the stack has room for so many values in values. -/
structure Fits (room : Nat) (v : Value) : Prop where
  depth : v.depth ≤ room
  numbers : AreShort v.numbers

theorem depth_pos (v : Value) : 0 < v.depth := by
  cases v <;> simp [depth]

theorem areShort_append {ms ns : List Int} : AreShort (ms ++ ns) ↔ AreShort ms ∧ AreShort ns :=
  List.forall_mem_append

theorem isOk_map {ε α β : Type} (x : Except ε α) (f : α → β) : (x.map f).isOk = x.isOk := by
  cases x <;> rfl

theorem isOk_both {ε α β γ : Type} (x : Except ε α) (y : Except ε β) (f : α → β → γ) :
    (do let a ← x; return f a (← y)).isOk = (x.isOk && y.isOk) := by
  cases x <;> cases y <;> rfl

@[simp] theorem areShort_nil : AreShort [] :=
  nofun

/-- Parts that are all shown fit, and parts that fit are all shown. -/
theorem both_fit {room d e : Nat} {ms ns : List Int} :
    (d ≤ room ∧ AreShort ms) ∧ (e ≤ room ∧ AreShort ns) ↔
      max d e ≤ room ∧ AreShort (ms ++ ns) := by
  rw [Nat.max_le, areShort_append]
  exact and_and_and_comm

mutual

theorem isOk_shown : ∀ (room : Nat) (v : Value),
    (v.shown room).isOk = true ↔ v.depth ≤ room ∧ AreShort v.numbers
  | 0, v => by
    rw [shown.eq_def, if_pos rfl]
    exact iff_of_false Bool.false_ne_true fun h => Nat.not_le_of_lt (depth_pos v) h.1
  | room + 1, .none | room + 1, .bool true | room + 1, .bool false | room + 1, .float _
  | room + 1, .text _ => by
    simp [shown, Except.isOk, Except.toBool, depth, numbers]
  | room + 1, .int n => by
    have hroom : 1 ≤ room + 1 := Nat.succ_pos room
    simp only [shown, Nat.succ_ne_zero, if_false, depth, numbers, AreShort,
      List.forall_mem_singleton, and_iff_right hroom]
    split
    case isTrue h => exact iff_of_false Bool.false_ne_true (Nat.not_le_of_lt h)
    case isFalse h => exact iff_of_true rfl (Nat.le_of_not_lt h)
  | room + 1, .list vs => by
    rw [shown, if_neg (Nat.succ_ne_zero room), isOk_map, Nat.add_sub_cancel, isOk_shownAll room vs,
      depth, numbers, Nat.add_le_add_iff_right]
  | room + 1, .tuple vs => by
    rw [shown, if_neg (Nat.succ_ne_zero room), isOk_map, Nat.add_sub_cancel, isOk_shownAll room vs,
      depth, numbers, Nat.add_le_add_iff_right]
  | room + 1, .dict es => by
    rw [shown, if_neg (Nat.succ_ne_zero room), isOk_map, Nat.add_sub_cancel,
      isOk_shownEntries room es, depth, numbers, Nat.add_le_add_iff_right]

theorem isOk_shownAll : ∀ (room : Nat) (vs : List Value),
    (shownAll room vs).isOk = true ↔ depthAll vs ≤ room ∧ AreShort (numbersAll vs)
  | _, [] => by simp [shownAll, depthAll, numbersAll, Except.isOk, Except.toBool]
  | room, v :: vs => by
    rw [shownAll, isOk_both, Bool.and_eq_true, isOk_shown room v, isOk_shownAll room vs, depthAll,
      numbersAll, both_fit]

theorem isOk_shownEntries : ∀ (room : Nat) (es : List (String × Value)),
    (shownEntries room es).isOk = true ↔ depthEntries es ≤ room ∧ AreShort (numbersEntries es)
  | _, [] => by simp [shownEntries, depthEntries, numbersEntries, Except.isOk, Except.toBool]
  | room, (_, v) :: es => by
    rw [shownEntries, isOk_both, Bool.and_eq_true, isOk_shown room v, isOk_shownEntries room es,
      depthEntries, numbersEntries, both_fit]

end

theorem isOk_shown_iff {room : Nat} {v : Value} : (v.shown room).isOk = true ↔ v.Fits room :=
  (isOk_shown room v).trans ⟨fun h => ⟨h.1, h.2⟩, fun h => ⟨h.depth, h.numbers⟩⟩

/-- What has a text fits. -/
theorem fits_of_shown {room : Nat} {v : Value} {t : String} (h : v.shown room = .ok t) :
    v.Fits room := by
  rw [← isOk_shown_iff, h]
  rfl

/-- What has none does not. -/
theorem not_fits_of_shown {room : Nat} {v : Value} {e : ShowError} (h : v.shown room = .error e) :
    ¬ v.Fits room := by
  rw [← isOk_shown_iff, h]
  exact Bool.false_ne_true

theorem Fits.exists_shown {room : Nat} {v : Value} (h : v.Fits room) :
    ∃ t, v.shown room = .ok t := by
  cases hshown : v.shown room with
  | ok t => exact ⟨t, rfl⟩
  | error e => exact absurd h (not_fits_of_shown hshown)

theorem Fits.exists_printed {room : Nat} {v : Value} (h : v.Fits room) :
    ∃ t, v.printed room = .ok t := by
  cases v with
  | text s => exact ⟨s, rfl⟩
  | _ => exact h.exists_shown

end Value

/-! ## Places of faults -/

/-- A column as readers of source texts give it: a small number, if it is known. -/
def Value.IsColumn (v : Value) : Prop :=
  v = .none ∨ ∃ n : Int, v = .int n ∧ n.natAbs < 0x4000000000000000

/-- A place as readers of source texts give it. -/
structure SourcePlace.IsPlain (room : Site → Nat) (place : SourcePlace) : Prop where
  file : place.file.Fits (room .description)
  line : place.line.Fits (room .lines)
  endLine : place.endLine.Fits (room .lines)
  text : place.text = .none ∨ ∃ s, place.text = .text s
  column : place.column.IsColumn
  endColumn : place.endColumn.IsColumn

namespace Exception

/-- An exception that can be described for sure: a fault of a source text must have a place and a
message as readers of source texts give them. -/
def IsPlain (room : Site → Nat) (e : Exception) : Prop :=
  ∀ place, e.place = some place →
    place.IsPlain room ∧ ∀ message ∈ e.args.head?, message.Fits (room .description)

theorem exists_part {room : Nat} {v : Value} (h : v.Fits room) : ∃ t, part room v = .ok t := by
  obtain ⟨t, ht⟩ := h.exists_printed
  exact ⟨t, by rw [part, ht]; rfl⟩

theorem exists_lineNumber {room : Nat} {v : Value} (h : v.Fits room) :
    ∃ line, lineNumber room v = .ok line := by
  obtain ⟨t, ht⟩ := exists_part h
  cases v with
  | none => exact ⟨none, rfl⟩
  | _ => exact ⟨some t, congrArg (Except.map some) ht⟩

theorem exists_placeText {room : Nat} {file : Value} (h : file.Fits room) (line : Option String) :
    ∃ text, placeText room file line = .ok text := by
  obtain ⟨t, ht⟩ := exists_part h
  cases line with
  | some line =>
    rw [placeText, ht]
    split <;> exact ⟨_, rfl⟩
  | none =>
    cases file with
    | none => exact ⟨_, rfl⟩
    | _ =>
      simp only [placeText, ht]
      exact ⟨_, rfl⟩

theorem exists_sourceMessage {room : Nat} {args : List Value}
    (h : ∀ message ∈ args.head?, message.Fits room) :
    ∃ text, sourceMessage room args = .ok text := by
  cases args with
  | nil => exact ⟨_, rfl⟩
  | cons message rest =>
    obtain ⟨t, ht⟩ := exists_part (h message rfl)
    rw [sourceMessage, ht]
    split <;> exact ⟨_, rfl⟩

/-- Where a mark between numbers ends. -/
theorem markEnd_int (n m : Int) :
    markEnd (.int n) (.int m) = .ok (.int (if m = 0 ∨ n = m ∨ m = -1 then n + 1 else m)) := by
  have hequals (k l : Int) : (Value.int k).equals (.int l) = (k == l) := rfl
  have hnone : (Value.int m).equals .none = false := rfl
  rw [markEnd]
  simp only [Value.unhashable?, hequals, hnone, Bool.false_or, next, Value.index?]
  by_cases hzero : m = 0
  · simp [hzero, Value.equalsItself]
  · simp only [hzero, if_false, hequals, Bool.or_eq_true, beq_iff_eq, false_or]
    split <;> rfl

/-- A mark ends at the column that is given, or goes on for one character. -/
theorem exists_markEnd (n : Int) {endColumn : Value} (h : endColumn.IsColumn) :
    ∃ k : Int, markEnd (.int n) endColumn = .ok (.int k) ∧
      (k = n + 1 ∨ k.natAbs < 0x4000000000000000) := by
  obtain rfl | ⟨m, rfl, hm⟩ := h
  · exact ⟨n + 1, rfl, .inl rfl⟩
  · refine ⟨_, markEnd_int n m, ?_⟩
    split
    · exact .inl rfl
    · exact .inr hm

theorem exists_markLine {line : List Char} {indent : Nat} {n : Int} {endColumn : Value}
    (hn : n.natAbs < 0x4000000000000000) (h : endColumn.IsColumn) :
    ∃ text, markLine line indent (.int n) endColumn = .ok text := by
  obtain ⟨k, hend, hk⟩ := exists_markEnd n h
  have hwidth : isIndex (k - 1 - indent - (n - 1 - indent)) = true := by
    simp only [isIndex, Bool.and_eq_true, decide_eq_true_iff]
    omega
  rw [markLine, hend]
  show ∃ text, (if n - 1 - indent < 0 then .ok "" else
    (markWidth (n - 1 - indent) (.inl (k - 1 - indent))).map _) = .ok text
  rw [markWidth, if_pos hwidth]
  split <;> exact ⟨_, rfl⟩

theorem exists_sourceLines {room : Site → Nat} {place : SourcePlace} (h : place.IsPlain room) :
    ∃ text, sourceLines place = .ok text := by
  rw [sourceLines]
  obtain htext | ⟨s, htext⟩ := h.text
  · rw [htext]
    exact ⟨_, rfl⟩
  · rw [htext]
    obtain hcolumn | ⟨n, hcolumn, hn⟩ := h.column
    · rw [hcolumn]
      exact ⟨_, rfl⟩
    · rw [hcolumn]
      obtain ⟨mark, hmark⟩ := exists_markLine hn h.endColumn
      exact ⟨_, congrArg (Except.map _) hmark⟩

theorem exists_sourceText {room : Site → Nat} {e : Exception} {place : SourcePlace}
    (hplace : place.IsPlain room)
    (hmessage : ∀ message ∈ e.args.head?, message.Fits (room .description)) :
    ∃ text, e.sourceText room place = .ok text := by
  obtain ⟨line, hline⟩ := exists_lineNumber hplace.line
  obtain ⟨endLine, hendLine⟩ := exists_lineNumber hplace.endLine
  obtain ⟨around, haround⟩ := exists_placeText hplace.file line
  obtain ⟨lines, hlines⟩ := exists_sourceLines hplace
  obtain ⟨message, hmessage⟩ := exists_sourceMessage hmessage
  rw [sourceText, hline, hendLine]
  simp only [haround, hlines, hmessage, bind, Except.bind, pure, Except.pure]
  exact ⟨_, rfl⟩

/-- A plain exception can be described. -/
theorem IsPlain.exists_describe {room : Site → Nat} {e : Exception} (h : e.IsPlain room) :
    ∃ text, e.describe room = .ok text := by
  rw [describe]
  cases hplace : e.place with
  | none => exact ⟨_, rfl⟩
  | some place =>
    obtain ⟨hplain, hmessage⟩ := h place hplace
    obtain ⟨text, htext⟩ := exists_sourceText hplain hmessage
    exact ⟨_, congrArg (· >>= _) htext⟩

end Exception

end Playground.Host
