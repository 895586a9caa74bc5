import Mathlib.Order.Bounds.Basic
import Playground.Proofs.Text.LineTable
import Playground.Proofs.Text.Utf8

/-!
# Columns in bytes

A column that is counted in bytes is read by cutting the bytes of the line there, and by decoding
what is left. A cut within a character leaves the first bytes of it, which are no character, nor are
those of them that follow the first one. So the column is that of the character that the cut is at
or goes through.

- `wholeChars_take_encode`: the text in front of a cut.
- `charsWithin`: how many characters fit into a number of bytes, as the largest such number.
- `byteOffset_countsBytes`: what a column in bytes stands for.
-/

namespace Playground.Text

/-- How many leading characters of a text fit into `bytes` bytes. -/
def charsWithin : List Char → Nat → Nat
  | [], _ => 0
  | c :: rest, bytes =>
    if c.utf8Size ≤ bytes then charsWithin rest (bytes - c.utf8Size) + 1 else 0

namespace Utf8

/-! ## The bytes in front of a cut -/

@[simp] theorem encode_nil : encode [] = [] := rfl

@[simp] theorem encode_cons (c : Char) (text : List Char) :
    encode (c :: text) = String.utf8EncodeChar c ++ encode text :=
  List.flatMap_cons

/-- A stream begins with the bytes of a character iff that character is decoded from it. -/
theorem firstChar?_eq_some_iff {bytes : List UInt8} {c : Char} :
    firstChar? bytes = some c ↔ String.utf8EncodeChar c <+: bytes := by
  unfold firstChar?
  constructor
  · intro h
    obtain ⟨more, hmore⟩ := ByteArray.exists_of_utf8DecodeChar?_eq_some h
    have htake : bytes.take 4 = String.utf8EncodeChar c ++ more.data.toList := by
      have hdata := congrArg (fun array => array.data.toList) hmore
      simpa using hdata
    rw [← List.take_append_drop 4 bytes, htake, List.append_assoc]
    exact List.prefix_append _ _
  · rintro ⟨rest, rfl⟩
    have hsize : (String.utf8EncodeChar c).length ≤ 4 := by
      rw [String.length_utf8EncodeChar]
      exact c.utf8Size_le_four
    rw [List.take_append, List.take_of_length_le hsize, List.toByteArray_append]
    exact ByteArray.utf8DecodeChar?_utf8EncodeChar_append

@[simp] theorem wholeChars_nil : wholeChars [] = [] := rfl

/-- The bytes that belong to a character before are passed over. -/
theorem wholeCharsAfter_eq (more : Nat) (bytes : List UInt8) :
    wholeCharsAfter more bytes = wholeChars (bytes.drop more) := by
  induction bytes generalizing more with
  | nil => rw [List.drop_nil, wholeChars_nil, wholeCharsAfter]
  | cons b rest ih =>
    cases more with
    | zero => rfl
    | succ more => exact ih more

/-- A character at the beginning of a stream is decoded, and then what follows it. -/
theorem wholeChars_encode_append (c : Char) (rest : List UInt8) :
    wholeChars (String.utf8EncodeChar c ++ rest) = c :: wholeChars rest := by
  have hfirst := firstChar?_eq_some_iff.mpr (List.prefix_append (String.utf8EncodeChar c) rest)
  have hlength := String.length_utf8EncodeChar c
  cases hbytes : String.utf8EncodeChar c with
  | nil => exact absurd hbytes String.utf8EncodeChar_ne_nil
  | cons b bytes =>
    rw [hbytes, List.length_cons] at hlength
    rw [hbytes, List.cons_append] at hfirst
    rw [List.cons_append, wholeChars, wholeCharsAfter, hfirst]
    dsimp only
    rw [wholeCharsAfter_eq, ← hlength, Nat.add_sub_cancel, List.drop_left]

/-- A byte where no character begins is ignored. -/
theorem wholeChars_cons {b : UInt8} {rest : List UInt8}
    (h : ∀ c, ¬ String.utf8EncodeChar c <+: b :: rest) :
    wholeChars (b :: rest) = wholeChars rest := by
  have hfirst : firstChar? (b :: rest) = none :=
    Option.eq_none_iff_forall_ne_some.mpr fun c hc => h c (firstChar?_eq_some_iff.mp hc)
  rw [wholeChars, wholeCharsAfter, hfirst, wholeChars]

/-- No character begins with a byte that follows the first one of another. -/
theorem not_prefix_lastByte {b : UInt8} {rest : List UInt8} (hb : 0x80 ≤ b.toNat ∧ b.toNat < 0xC0)
    (c : Char) : ¬ String.utf8EncodeChar c <+: b :: rest := by
  intro hc
  obtain ⟨more, hmore, hencode⟩ := encode_eq c
  have hcases := firstByte_cases hmore
  rw [hencode, List.cons_prefix_cons] at hc
  have hfirst : (UInt8.ofNat (c.toNat / 64 ^ more + mark more)).toNat =
      c.toNat / 64 ^ more + mark more := UInt8.toNat_ofNat_of_lt' (by show _ < 256; omega)
  rw [hc.1] at hfirst
  omega

theorem mem_lastBytes {value : Nat} {b : UInt8} : ∀ {count : Nat}, b ∈ lastBytes value count →
    0x80 ≤ b.toNat ∧ b.toNat < 0xC0
  | count + 1, h => by
    rw [lastBytes, List.mem_cons] at h
    rcases h with rfl | h
    · rw [toNat_lastByte]
      omega
    · exact mem_lastBytes h

/-- The bytes that follow the first one of a character are ignored where it is missing. -/
theorem wholeChars_of_lastBytes : ∀ {bytes : List UInt8},
    (∀ b ∈ bytes, 0x80 ≤ b.toNat ∧ b.toNat < 0xC0) → wholeChars bytes = []
  | [], _ => wholeChars_nil
  | b :: bytes, h => by
    rw [wholeChars_cons (not_prefix_lastByte (h b List.mem_cons_self))]
    exact wholeChars_of_lastBytes fun x hx => h x (List.mem_cons_of_mem b hx)

/-- What is left of a character that a cut goes through is ignored. -/
theorem wholeChars_take_encodeChar {c : Char} {n : Nat} (hn : n < c.utf8Size) :
    wholeChars ((String.utf8EncodeChar c).take n) = [] := by
  obtain ⟨more, -, hencode⟩ := encode_eq c
  cases n with
  | zero => exact wholeChars_nil
  | succ n =>
    have hnone : ∀ d, ¬ String.utf8EncodeChar d <+: (String.utf8EncodeChar c).take (n + 1) := by
      intro d hd
      -- the character there would be the one that was cut, but it is too long
      obtain rfl := eq_of_encode_prefix (hd.trans (List.take_prefix _ _))
      have hlength := hd.length_le
      rw [List.length_take, String.length_utf8EncodeChar] at hlength
      omega
    rw [hencode, List.take_succ_cons] at hnone ⊢
    rw [wholeChars_cons hnone]
    exact wholeChars_of_lastBytes fun b hb => mem_lastBytes (List.mem_of_mem_take hb)

/-- In front of a cut stand the characters that fit there. -/
theorem wholeChars_take_encode (text : List Char) (n : Nat) :
    wholeChars ((encode text).take n) = text.take (charsWithin text n) := by
  induction text generalizing n with
  | nil => rw [encode_nil, List.take_nil, List.take_nil, wholeChars_nil]
  | cons c text ih =>
    have hlength := String.length_utf8EncodeChar c
    rw [encode_cons, charsWithin]
    split
    · rename_i hfits
      rw [List.take_append, List.take_of_length_le (by omega), wholeChars_encode_append, ih, hlength,
        List.take_succ_cons]
    · rename_i hcut
      rw [List.take_append_of_le_length (by omega), wholeChars_take_encodeChar (by omega),
        List.take_zero]

end Utf8

/-! ## The number of characters that fit -/

theorem charsWithin_le_length : ∀ (text : List Char) (bytes : Nat),
    charsWithin text bytes ≤ text.length
  | [], _ => Nat.le_refl 0
  | c :: rest, bytes => by
    rw [charsWithin]
    split
    · exact Nat.succ_le_succ (charsWithin_le_length rest _)
    · exact Nat.zero_le _

/-- So many leading characters fit as there are, if their bytes are no more than that. -/
theorem le_charsWithin_iff {k : Nat} {text : List Char} {bytes : Nat} :
    k ≤ charsWithin text bytes ↔
      k ≤ text.length ∧ (Utf8.encode (text.take k)).length ≤ bytes := by
  induction text generalizing k bytes with
  | nil =>
    rw [charsWithin, List.take_nil]
    simp
  | cons c text ih =>
    cases k with
    | zero => simp
    | succ k =>
      have hlength := String.length_utf8EncodeChar c
      rw [List.take_succ_cons, Utf8.encode_cons, List.length_append, List.length_cons, charsWithin]
      split
      · rw [Nat.add_le_add_iff_right, ih]
        omega
      · omega

/-- The number of characters that fit is the largest one that does. -/
theorem isGreatest_charsWithin (text : List Char) (bytes : Nat) :
    IsGreatest {k | k ≤ text.length ∧ (Utf8.encode (text.take k)).length ≤ bytes}
      (charsWithin text bytes) :=
  ⟨le_charsWithin_iff.mp (Nat.le_refl _), fun _ hk => le_charsWithin_iff.mpr hk⟩

/-- No fewer characters fit into more bytes. -/
theorem charsWithin_mono (text : List Char) : Monotone (charsWithin text) := by
  intro bytes bytes' hle
  obtain ⟨hlength, hbytes⟩ := le_charsWithin_iff.mp (Nat.le_refl (charsWithin text bytes))
  exact le_charsWithin_iff.mpr ⟨hlength, hbytes.trans hle⟩

/-- More characters have more bytes. -/
theorem length_encode_take_lt {text : List Char} {k : Nat} (hk : k < text.length) :
    (Utf8.encode (text.take k)).length < (Utf8.encode (text.take (k + 1))).length := by
  induction text generalizing k with
  | nil => cases hk
  | cons c text ih =>
    have hlength := String.length_utf8EncodeChar c
    have hpos := c.utf8Size_pos
    rw [List.take_succ_cons, Utf8.encode_cons, List.length_append]
    cases k with
    | zero =>
      rw [List.take_zero, Utf8.encode_nil, List.length_nil]
      omega
    | succ k =>
      have hlt := ih (Nat.lt_of_succ_lt_succ hk)
      rw [List.take_succ_cons, Utf8.encode_cons, List.length_append]
      omega

/-- From the first byte of a character up to the next one, the characters before it fit. -/
theorem charsWithin_eq {text : List Char} {k bytes : Nat} (hk : k ≤ text.length)
    (hle : (Utf8.encode (text.take k)).length ≤ bytes)
    (hlt : k < text.length → bytes < (Utf8.encode (text.take (k + 1))).length) :
    charsWithin text bytes = k := by
  refine Nat.le_antisymm ?_ (le_charsWithin_iff.mpr ⟨hk, hle⟩)
  by_contra hmore
  obtain ⟨hlength, hbytes⟩ := le_charsWithin_iff.mp (Nat.succ_le_of_lt (Nat.lt_of_not_le hmore))
  exact absurd hbytes (Nat.not_le_of_lt (hlt hlength))

/-! ## Columns -/

namespace LineTable

/-- A column in bytes is the number of characters that fit in front of it. -/
theorem byteOffset_eq (t : LineTable) (line column : Int) :
    t.byteOffset line column = t.offset line (charsWithin (t.lineText line) column.toNat) := by
  rw [byteOffset, Utf8.wholeChars_take_encode, List.length_take,
    Nat.min_eq_left (charsWithin_le_length _ _)]

/-- What columns in bytes stand for on a line of a table. -/
structure CountsBytes (t : LineTable) (line : Int) : Prop where
  /-- A column is that behind the most characters whose bytes end in front of it. -/
  greatest : ∀ column : Int, ∃ k : Nat,
    IsGreatest {k : Nat | k ≤ (t.lineText line).length ∧
      (Utf8.encode ((t.lineText line).take k)).length ≤ max column 0} k ∧
    t.byteOffset line column = t.offset line k
  /-- The bytes of the characters before a column lead back to it. -/
  inverse : ∀ k ≤ (t.lineText line).length,
    t.byteOffset line (Utf8.encode ((t.lineText line).take k)).length = t.offset line k
  monotone : ∀ column column' : Int, column ≤ column' →
    t.byteOffset line column ≤ t.byteOffset line column'
  within : ∀ column, t.offset line 0 ≤ t.byteOffset line column ∧
    t.byteOffset line column ≤ t.offset line 0 + (t.lineText line).length
  /-- A column within a character is that of the character. -/
  inside : ∀ k < (t.lineText line).length, ∀ column : Int,
    (Utf8.encode ((t.lineText line).take k)).length ≤ column →
    column < (Utf8.encode ((t.lineText line).take (k + 1))).length →
      t.byteOffset line column = t.offset line k

/-- On every line of every text, columns in bytes are rounded down to characters. -/
theorem byteOffset_countsBytes (text : List Char) (line : Int) :
    (ofText text).CountsBytes line where
  greatest column := by
    have hgreatest := isGreatest_charsWithin ((ofText text).lineText line) column.toNat
    have hfits : ∀ size : Nat, (size : Int) ≤ max column 0 ↔ size ≤ column.toNat := by omega
    simp only [hfits]
    exact ⟨_, hgreatest, byteOffset_eq _ line column⟩
  inverse k hk := by
    rw [byteOffset_eq, Int.toNat_natCast,
      charsWithin_eq hk (Nat.le_refl _) fun hlt => length_encode_take_lt hlt]
  monotone column column' hle := by
    rw [byteOffset_eq, byteOffset_eq]
    exact offset_mono _ line (Int.ofNat_le.mpr (charsWithin_mono _ (Int.toNat_le_toNat hle)))
  within column := by
    have hlength := charsWithin_le_length ((ofText text).lineText line) column.toNat
    rw [byteOffset_eq]
    exact ⟨offset_zero_le _ line _, (offset_le_add _ line _).trans (Nat.add_le_add_left hlength _)⟩
  inside k hk column hle hlt := by
    rw [byteOffset_eq, charsWithin_eq (Nat.le_of_lt hk) (by omega) fun _ => by omega]

/-- The column is the last but one byte of a character of four. -/
example : (LineTable.ofText "aé€😀b".toList).byteOffset 1 8 = 3 := by decide

end LineTable

end Playground.Text
