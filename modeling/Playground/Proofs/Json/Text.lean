import Playground.Json.Printer
import Playground.Json.Reader

/-!
# Printed texts and their readers

A text that is printed is read back, whatever is in it, and so is an object whose fields are texts.
What is printed of them is visible ASCII, so that it neither ends a line nor is trimmed.

- `readText_charText`: reading steps over one printed character at a time.
- `read?_print_texts`: an object of texts is read back as it was.
- `isVisible_of_mem_print_texts`: it is printed in visible ASCII.
-/

namespace Playground.Json

/-- The characters of ASCII that are not control characters. -/
def IsVisible (c : Char) : Prop :=
  32 ≤ c.toNat ∧ c.toNat < 127

instance (c : Char) : Decidable (IsVisible c) :=
  inferInstanceAs (Decidable (_ ∧ _))

/-! ## Digits -/

theorem hexValue?_digitChar : ∀ d < 16, hexValue? (Nat.digitChar d) = some d := by
  decide

theorem isVisible_digitChar : ∀ d < 16, IsVisible (Nat.digitChar d) := by
  decide

/-- Beyond the first one, digits are padded from the left. -/
theorem hexDigits_succ {width : Nat} (hwidth : 0 < width) (n : Nat) :
    Text.hexDigits (width + 1) n = Text.hexDigits width (n / 16) ++ [(n % 16).digitChar] := by
  unfold Text.hexDigits
  by_cases hn : n < 16
  · rw [Nat.toDigits_of_lt_base hn, Nat.div_eq_of_lt hn, Nat.mod_eq_of_lt hn]
    obtain ⟨rest, rfl⟩ := Nat.exists_eq_add_of_lt hwidth
    simp [List.replicate_succ']
  · rw [Nat.toDigits_of_base_le (by decide) (Nat.le_of_not_lt hn)]
    simp

/-- The four digits of a unit of sixteen bits. -/
theorem hexDigits_four {n : Nat} (hn : n < 0x10000) :
    Text.hexDigits 4 n =
      [(n / 4096).digitChar, (n / 256 % 16).digitChar, (n / 16 % 16).digitChar,
        (n % 16).digitChar] := by
  have hfirst : Text.hexDigits 1 (n / 4096) = [(n / 4096).digitChar] := by
    rw [Text.hexDigits, Nat.toDigits_of_lt_base (by omega)]
    rfl
  rw [hexDigits_succ (by decide), hexDigits_succ (by decide), hexDigits_succ (by decide),
    Nat.div_div_eq_div_mul n 16 16, Nat.div_div_eq_div_mul n (16 * 16) 16, hfirst]
  rfl

/-- The digits of a unit are read back. -/
theorem hexUnit?_hexDigits {n : Nat} (hn : n < 0x10000) (rest : List Char) :
    hexUnit? (Text.hexDigits 4 n ++ rest) = some (n, rest) := by
  have hvalue : ((n / 4096 * 16 + n / 256 % 16) * 16 + n / 16 % 16) * 16 + n % 16 = n := by omega
  rw [hexDigits_four hn]
  simp only [List.cons_append, List.nil_append, hexUnit?]
  rw [hexValue?_digitChar _ (by omega), hexValue?_digitChar _ (by omega),
    hexValue?_digitChar _ (by omega), hexValue?_digitChar _ (by omega)]
  simp [hvalue]

theorem isVisible_of_mem_unitEscape {n : Nat} (hn : n < 0x10000) :
    ∀ c ∈ unitEscape n, IsVisible c := by
  simp only [unitEscape, hexDigits_four hn, List.forall_mem_cons]
  exact ⟨by decide, by decide, isVisible_digitChar _ (by omega), isVisible_digitChar _ (by omega),
    isVisible_digitChar _ (by omega), isVisible_digitChar _ (by omega), by simp⟩

/-! ## Characters -/

/-- The numbers of characters. -/
theorem toNat_cases (c : Char) : c.toNat < 0xD800 ∨ 0xDFFF < c.toNat ∧ c.toNat < 0x110000 :=
  c.valid

/-- A character of the first plane is read back from its escape sequence. -/
theorem unicodeEscape?_unit {c : Char} (hc : c.toNat < 0x10000) (rest : List Char) :
    unicodeEscape? (Text.hexDigits 4 c.toNat ++ rest) = some (c, rest) := by
  -- no character is the half of another one
  have hcases := toNat_cases c
  have hhigh : ¬ (0xD800 ≤ c.toNat ∧ c.toNat < 0xDC00) := by omega
  have hlow : (!(0xDC00 ≤ c.toNat && c.toNat < 0xE000)) = true := by
    simp
    omega
  have hguard : (guard (!(0xDC00 ≤ c.toNat && c.toNat < 0xE000)) : Option Unit) = some () :=
    if_pos hlow
  rw [unicodeEscape?, hexUnit?_hexDigits hc]
  show (if _ then _ else Option.bind (guard _) fun _ => _) = _
  rw [if_neg hhigh, hguard, Option.bind_some, Char.ofNat_toNat]
  rfl

/-- The two halves of the number of a character beyond the first plane. -/
theorem halves_of_beyond {n : Nat} (hn : 0x10000 ≤ n) (hlast : n < 0x110000) :
    ∃ high low, 0xD800 + (n - 0x10000) / 0x400 = high ∧ 0xDC00 + (n - 0x10000) % 0x400 = low ∧
      (0xD800 ≤ high ∧ high < 0xDC00) ∧ (0xDC00 ≤ low ∧ low < 0xE000) ∧
      0x10000 + (high - 0xD800) * 0x400 + (low - 0xDC00) = n := by
  refine ⟨_, _, rfl, rfl, ?_, ?_, ?_⟩ <;> omega

/-- A character beyond the first plane is read back from its two halves. -/
theorem unicodeEscape?_halves {c : Char} (hc : 0x10000 ≤ c.toNat) (rest : List Char) :
    unicodeEscape? (Text.hexDigits 4 (0xD800 + (c.toNat - 0x10000) / 0x400) ++
      (unitEscape (0xDC00 + (c.toNat - 0x10000) % 0x400) ++ rest)) = some (c, rest) := by
  obtain ⟨high, low, hhigh, hlow, hfirst, hsecond, hvalue⟩ :=
    halves_of_beyond hc ((toNat_cases c).elim (fun h => by omega) And.right)
  rw [hhigh, hlow, unicodeEscape?, hexUnit?_hexDigits (by omega)]
  have hguard : (guard (0xDC00 ≤ low && low < 0xE000) : Option Unit) = some () :=
    if_pos (by simpa using hsecond)
  show (if _ then Option.bind (hexUnit? (Text.hexDigits 4 low ++ rest)) _ else _) = _
  rw [if_pos hfirst, hexUnit?_hexDigits (by omega)]
  show Option.bind (guard _) (fun _ => some (Char.ofNat _, rest)) = _
  rw [hguard, Option.bind_some, hvalue, Char.ofNat_toNat]

/-- How a character is printed: by an escape sequence of its own, as it is, or by the escape
sequences of its units. -/
inductive Printed (c : Char) : List Char → Prop
  | letter (d : Char) : IsVisible d → (∀ rest, escape? (d :: rest) = some (c, rest)) →
    Printed c ['\\', d]
  | itself : IsVisible c → c ≠ '"' → c ≠ '\\' → Printed c [c]
  | unit : c.toNat < 0x10000 → Printed c (unitEscape c.toNat)
  | halves : 0x10000 ≤ c.toNat →
    Printed c (unitEscape (0xD800 + (c.toNat - 0x10000) / 0x400) ++
      unitEscape (0xDC00 + (c.toNat - 0x10000) % 0x400))

theorem printed_charText (c : Char) : Printed c (charText c) := by
  have hletter {d e : Char} {more : List Char} (hd : IsVisible d)
      (hescape : ∀ rest, escape? (d :: rest) = some (e, rest)) (hmore : c ≠ e → Printed c more) :
      Printed c (if c = e then ['\\', d] else more) := by
    by_cases h : c = e
    · rw [if_pos h]
      exact .letter d hd (h ▸ hescape)
    · rw [if_neg h]
      exact hmore h
  unfold charText
  refine hletter (by decide) (fun _ => rfl) fun hquote => ?_
  refine hletter (by decide) (fun _ => rfl) fun hbackslash => ?_
  iterate 5 refine hletter (by decide) (fun _ => rfl) fun _ => ?_
  dsimp only
  by_cases hvisible : 32 ≤ c.toNat ∧ c.toNat < 127
  · rw [if_pos hvisible]
    exact .itself hvisible hquote hbackslash
  · rw [if_neg hvisible]
    by_cases hplane : c.toNat < 0x10000
    · rw [if_pos hplane]
      exact .unit hplane
    · rw [if_neg hplane]
      exact .halves (Nat.le_of_not_lt hplane)

/-- Reading steps over a printed character. -/
theorem readText_charText (c : Char) (done : List Char) (fuel : Nat) (rest : List Char) :
    readText done (fuel + 1) (charText c ++ rest) = readText (c :: done) fuel rest := by
  have hunit {n : Nat} {more : List Char}
      (h : unicodeEscape? (Text.hexDigits 4 n ++ more) = some (c, rest)) :
      readText done (fuel + 1) (unitEscape n ++ more) = readText (c :: done) fuel rest := by
    simp only [unitEscape, List.cons_append, readText, escape?, h]
    rfl
  have hprinted := printed_charText c
  generalize charText c = text at hprinted ⊢
  cases hprinted with
  | letter d _ h =>
    rw [List.cons_append, List.singleton_append, readText, h rest]
    rfl
  | itself hvisible hquote hbackslash =>
    rw [List.singleton_append, readText]
    · exact if_neg (Nat.not_lt.mpr hvisible.1)
    · exact hquote
    · exact hbackslash
  | unit h => exact hunit (unicodeEscape?_unit h rest)
  | halves h =>
    rw [List.append_assoc]
    exact hunit (unicodeEscape?_halves h rest)

/-- What is printed of a character is visible. -/
theorem isVisible_of_mem_charText (c : Char) : ∀ d ∈ charText c, IsVisible d := by
  have hcases := toNat_cases c
  have hprinted := printed_charText c
  generalize charText c = text at hprinted ⊢
  cases hprinted with
  | letter d hd _ =>
    simp only [List.forall_mem_cons]
    exact ⟨by decide, hd, by simp⟩
  | itself hvisible _ _ => exact List.forall_mem_singleton.mpr hvisible
  | unit h => exact isVisible_of_mem_unitEscape h
  | halves h =>
    rw [List.forall_mem_append]
    exact ⟨isVisible_of_mem_unitEscape (by omega), isVisible_of_mem_unitEscape (by omega)⟩

theorem length_charText_pos (c : Char) : 0 < (charText c).length := by
  have hprinted := printed_charText c
  generalize charText c = text at hprinted ⊢
  cases hprinted <;> exact Nat.succ_pos _

/-! ## Texts -/

/-- Reading steps over printed characters up to a quote. -/
theorem readText_flatMap (s done rest : List Char) {fuel : Nat} (hfuel : s.length < fuel) :
    readText done fuel (s.flatMap charText ++ '"' :: rest) =
      some (String.ofList (done.reverse ++ s), rest) := by
  induction s generalizing done fuel with
  | nil =>
    obtain ⟨fuel, rfl⟩ := Nat.exists_eq_add_of_lt hfuel
    simp [readText]
  | cons c s ih =>
    obtain ⟨fuel, rfl⟩ := Nat.exists_eq_add_of_lt hfuel
    rw [List.flatMap_cons, List.append_assoc, readText_charText, ih _ (by simp; omega)]
    simp

/-- A printed text is at least as long as the text. -/
theorem length_le_length_flatMap (s : List Char) : s.length ≤ (s.flatMap charText).length := by
  induction s with
  | nil => exact Nat.le_refl 0
  | cons c s ih =>
    have hc := length_charText_pos c
    rw [List.flatMap_cons, List.length_append, List.length_cons]
    omega

/-- A text is printed between quotes. -/
theorem textText_append (s : String) (rest : List Char) :
    textText s ++ rest = '"' :: (s.toList.flatMap charText ++ '"' :: rest) := by
  simp [textText]

/-- After its first quote, a printed text is read back. -/
theorem readText_textText (s : String) (rest : List Char) :
    readText [] ((s.toList.flatMap charText ++ '"' :: rest).length + 1)
      (s.toList.flatMap charText ++ '"' :: rest) = some (s, rest) := by
  have hlength := length_le_length_flatMap s.toList
  rw [readText_flatMap _ _ _ (by rw [List.length_append]; omega), List.reverse_nil,
    List.nil_append, String.ofList_toList]

/-- What is printed of a text is visible. -/
theorem isVisible_of_mem_textText (s : String) : ∀ c ∈ textText s, IsVisible c := by
  simp only [textText, List.cons_append, List.forall_mem_cons, List.forall_mem_append,
    List.mem_flatMap]
  refine ⟨by decide, ?_, by decide, List.forall_mem_nil _⟩
  rintro d ⟨c, -, hd⟩
  exact isVisible_of_mem_charText c d hd

/-! ## Objects of texts -/

/-- Fields that are texts. -/
def texts (fields : List (String × String)) : List (String × Json) :=
  fields.map fun f => (f.1, .text f.2)

/-- A text is a value. -/
theorem readValue_text (depth fuel : Nat) (s : String) (rest : List Char) :
    readValue depth (fuel + 1) (textText s ++ rest) = some (.text s, rest) := by
  have hskip : skipSpace ('"' :: (s.toList.flatMap charText ++ '"' :: rest)) =
      '"' :: (s.toList.flatMap charText ++ '"' :: rest) := rfl
  rw [textText_append, readValue, hskip]
  simp only [readText_textText]
  rfl

/-- A space before a value does not count. -/
theorem readValue_space (depth fuel : Nat) (s : List Char) :
    readValue depth (fuel + 1) (' ' :: s) = readValue depth (fuel + 1) s := by
  rw [readValue, readValue]
  rfl

/-- Nor does one before a field. -/
theorem readFields_space (depth fuel : Nat) (s : List Char) :
    readFields depth (fuel + 1) (' ' :: s) = readFields depth (fuel + 1) s := by
  rw [readFields, readFields]
  rfl

/-- Reading steps over the name of a field and its colon to the value, if that is a text. -/
theorem readFields_text (depth fuel : Nat) (name value : String) (rest : List Char) :
    readFields depth (fuel + 2) (textText name ++ ':' :: ' ' :: (textText value ++ rest)) =
      match skipSpace rest with
      | ',' :: rest =>
        (readFields depth (fuel + 1) rest).map fun (fs, rest) => ((name, .text value) :: fs, rest)
      | '\x7d' :: rest => some ([(name, .text value)], rest)
      | _ => none := by
  rw [textText_append, readFields]
  generalize hvalue : ':' :: ' ' :: (textText value ++ rest) = more
  have hskip : skipSpace ('"' :: (name.toList.flatMap charText ++ '"' :: more)) =
      '"' :: (name.toList.flatMap charText ++ '"' :: more) := rfl
  rw [hskip]
  simp only [readText_textText, Option.bind_eq_bind, Option.bind_some]
  subst hvalue
  have hcolon : skipSpace (':' :: ' ' :: (textText value ++ rest)) =
      ':' :: ' ' :: (textText value ++ rest) := rfl
  rw [hcolon]
  have hread : readValue depth (fuel + 1) (' ' :: (textText value ++ rest)) =
      some (.text value, rest) := by
    rw [readValue_space, readValue_text]
  refine Eq.trans (congrArg (Option.bind · _) hread) ?_
  rfl

/-- Fields that are texts are read back. -/
theorem readFields_texts (depth : Nat) (fields : List (String × String)) (name value : String)
    (rest : List Char) {fuel : Nat} (hfuel : fields.length + 2 ≤ fuel) :
    readFields depth fuel
        (textText name ++ ':' :: ' ' :: (textText value ++ (printFields (texts fields) ++ rest))) =
      some ((name, .text value) :: texts fields, rest) := by
  have htwo : 2 ≤ fuel := Nat.le_of_add_left_le hfuel
  obtain ⟨fuel, rfl⟩ := Nat.exists_eq_add_of_le' htwo
  induction fields generalizing name value fuel with
  | nil => exact readFields_text depth fuel name value _
  | cons f fields ih =>
    rw [List.length_cons] at hfuel
    have hfields : printFields (texts (f :: fields)) ++ rest =
        ',' :: ' ' ::
          (textText f.1 ++
            ':' :: ' ' :: (textText f.2 ++ (printFields (texts fields) ++ rest))) := by
      simp only [texts, List.map_cons, printFields, print, List.cons_append, List.append_assoc]
    rw [hfields, readFields_text]
    show Option.map _ (readFields depth (fuel + 1) (' ' :: _)) = _
    obtain ⟨fuel, rfl⟩ := Nat.exists_eq_add_of_le' (show 1 ≤ fuel by omega)
    rw [readFields_space, ih _ _ fuel (by omega) (by omega)]
    rfl

/-- The fields of an object after the first take some room each, and its closing brace too. -/
theorem length_lt_length_printFields : ∀ fields : List (String × Json),
    fields.length < (printFields fields).length
  | [] => Nat.one_pos
  | (name, value) :: fields => by
    have := length_lt_length_printFields fields
    simp only [printFields, List.length_cons, List.length_append]
    omega

/-- An object of texts is a value. -/
theorem readValue_texts (depth : Nat) (fields : List (String × String)) {fuel : Nat}
    (hfuel : fields.length + 2 ≤ fuel) :
    readValue (depth + 1) fuel (print (.object (texts fields))) =
      some (.object (texts fields), []) := by
  obtain ⟨fuel, rfl⟩ := Nat.exists_eq_add_of_le' (Nat.le_of_add_left_le hfuel : 1 ≤ fuel)
  cases fields with
  | nil => rfl
  | cons f fields =>
    have hprint : print (.object (texts (f :: fields))) =
        '\x7b' :: (textText f.1 ++
          ':' :: ' ' :: (textText f.2 ++ (printFields (texts fields) ++ []))) := by
      simp only [texts, List.map_cons, print, List.cons_append, List.append_assoc, List.append_nil]
    have hrest : fields.length + 2 ≤ fuel := by
      rw [List.length_cons] at hfuel
      omega
    have hread := readFields_texts depth fields f.1 f.2 [] hrest
    rw [hprint]
    rw [textText_append] at hread ⊢
    rw [readValue]
    show Option.map _ (readFields depth fuel _) = _
    rw [hread]
    rfl

/-- An object of texts is read back as it was. -/
theorem read?_print_texts (depth : Nat) (fields : List (String × String)) :
    read? (depth + 1) (print (.object (texts fields))) = some (.object (texts fields)) := by
  have hlength : fields.length ≤ (print (.object (texts fields))).length := by
    cases fields with
    | nil => exact Nat.zero_le _
    | cons f fields =>
      have := length_lt_length_printFields (texts fields)
      simp only [texts, List.length_map] at this
      simp only [texts, List.map_cons, print, List.length_cons, List.length_append]
      omega
  rw [read?, readValue_texts depth fields (by omega)]
  rfl

/-! ## Where printed objects end -/

/-- The fields of an object end with its closing brace. -/
theorem exists_printFields : ∀ fields : List (String × Json),
    ∃ inner, printFields fields = inner ++ ['\x7d']
  | [] => ⟨[], rfl⟩
  | (name, value) :: fields => by
    obtain ⟨inner, hinner⟩ := exists_printFields fields
    exact ⟨',' :: ' ' :: textText name ++ ':' :: ' ' :: print value ++ inner, by
      simp [printFields, hinner]⟩

/-- An object stands between braces. -/
theorem exists_print_object (fields : List (String × Json)) :
    ∃ inner, print (.object fields) = '\x7b' :: (inner ++ ['\x7d']) := by
  cases fields with
  | nil => exact ⟨[], rfl⟩
  | cons f fields =>
    obtain ⟨inner, hinner⟩ := exists_printFields fields
    exact ⟨textText f.1 ++ ':' :: ' ' :: print f.2 ++ inner, by simp [print, hinner]⟩

/-- What is printed of fields that are texts is visible. -/
theorem isVisible_of_mem_printFields (fields : List (String × String)) :
    ∀ c ∈ printFields (texts fields), IsVisible c := by
  induction fields with
  | nil => exact List.forall_mem_singleton.mpr (by decide)
  | cons f fields ih =>
    simp only [texts, List.map_cons, printFields, print, List.cons_append, List.append_assoc,
      List.forall_mem_cons, List.forall_mem_append]
    exact ⟨by decide, by decide, isVisible_of_mem_textText f.1, by decide, by decide,
      isVisible_of_mem_textText f.2, ih⟩

/-- An object of texts is printed in visible characters. -/
theorem isVisible_of_mem_print_texts (fields : List (String × String)) :
    ∀ c ∈ print (.object (texts fields)), IsVisible c := by
  cases fields with
  | nil => exact List.forall_mem_cons.mpr ⟨by decide, List.forall_mem_singleton.mpr (by decide)⟩
  | cons f fields =>
    -- the first field is printed as all others are, but for what stands before it
    have hfields := isVisible_of_mem_printFields (f :: fields)
    simp only [texts, List.map_cons, printFields, print, List.cons_append, List.append_assoc,
      List.forall_mem_cons] at hfields ⊢
    exact ⟨by decide, hfields.2.2⟩

end Playground.Json
