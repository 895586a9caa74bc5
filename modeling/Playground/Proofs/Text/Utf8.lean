import Mathlib.Algebra.GroupWithZero.Nat
import Mathlib.Data.List.Infix
import Playground.Text.Utf8

/-!
# Decoded streams

What the decoder makes of a stream of bytes, told without its states: the characters whose bytes
stand there, and a replacement for each longest run of bytes that could have begun a character, or
for a single byte where none begins.

- `Decodes`: the text of a stream, by the bytes that the standard library gives each character.
- `decodes_iff`: every stream has one text, which is what the decoder makes of it.
- `feed_decodeFrom`: a stream can be cut anywhere, also within a character.
-/

namespace Playground.Text.Utf8

/-! ## The text of a stream -/

/-- Bytes that a character may begin with, or all of its bytes. -/
def Begins (bytes : List UInt8) : Prop :=
  ∃ c : Char, bytes <+: String.utf8EncodeChar c

/-- Bytes in front of others that are replaced as one. -/
structure Replaced (bytes rest : List UInt8) : Prop where
  nonempty : bytes ≠ []
  /-- No character stands there. -/
  noChar : ∀ c : Char, ¬ String.utf8EncodeChar c <+: bytes ++ rest
  /-- More than one byte is only replaced at once if a character could have begun so. -/
  begins : bytes.length = 1 ∨ Begins bytes
  /-- No character could have begun with more of the stream. -/
  longest : ∀ more, more <+: bytes ++ rest → Begins more → more.length ≤ bytes.length

/-- The text of a stream of bytes. -/
inductive Decodes : List UInt8 → List Char → Prop
  | nil : Decodes [] []
  | char (c : Char) {rest : List UInt8} {text : List Char} : Decodes rest text →
    Decodes (String.utf8EncodeChar c ++ rest) (c :: text)
  | replaced {bytes rest : List UInt8} {text : List Char} : Replaced bytes rest →
    Decodes rest text → Decodes (bytes ++ rest) (replacement :: text)

/-- The bytes of a character are not those that another one begins with. -/
theorem eq_of_encode_append {c d : Char} {x y : List UInt8}
    (h : String.utf8EncodeChar c ++ x = String.utf8EncodeChar d ++ y) : c = d := by
  have hbytes : (String.utf8EncodeChar c).toByteArray ++ x.toByteArray =
      (String.utf8EncodeChar d).toByteArray ++ y.toByteArray := by
    rw [← List.toByteArray_append, ← List.toByteArray_append, h]
  have hc := ByteArray.utf8DecodeChar?_utf8EncodeChar_append (b := x.toByteArray) (c := c)
  rw [hbytes, ByteArray.utf8DecodeChar?_utf8EncodeChar_append] at hc
  exact (Option.some.inj hc).symm

theorem eq_of_encode_prefix {c d : Char}
    (h : String.utf8EncodeChar c <+: String.utf8EncodeChar d) : c = d := by
  obtain ⟨rest, hrest⟩ := h
  exact eq_of_encode_append (hrest.trans (List.append_nil _).symm)

/-- Of two runs of bytes that are replaced at the same place, neither is longer. -/
theorem Replaced.length_le {bytes rest bytes' rest' : List UInt8} (h : Replaced bytes rest)
    (h' : Replaced bytes' rest') (hsame : bytes ++ rest = bytes' ++ rest') :
    bytes.length ≤ bytes'.length := by
  rcases h.begins with hone | hbegins
  · rw [hone]
    exact List.length_pos_of_ne_nil h'.nonempty
  · exact h'.longest bytes (hsame ▸ List.prefix_append _ _) hbegins

/-- A stream has at most one text. -/
theorem Decodes.unique {bytes : List UInt8} {text text' : List Char} (h : Decodes bytes text)
    (h' : Decodes bytes text') : text = text' := by
  induction h generalizing text' with
  | nil =>
    generalize hbytes : ([] : List UInt8) = bytes at h'
    cases h' with
    | nil => rfl
    | char c =>
      exact absurd (List.append_eq_nil_iff.mp hbytes.symm).1 String.utf8EncodeChar_ne_nil
    | replaced hrun => exact absurd (List.append_eq_nil_iff.mp hbytes.symm).1 hrun.nonempty
  | @char c rest text hrest ih =>
    generalize hbytes : String.utf8EncodeChar c ++ rest = bytes at h'
    cases h' with
    | nil => exact absurd (List.append_eq_nil_iff.mp hbytes).1 (String.utf8EncodeChar_ne_nil)
    | char d hrest' =>
      obtain rfl := eq_of_encode_append hbytes
      obtain rfl := List.append_cancel_left hbytes
      rw [ih hrest']
    | replaced hrun => exact absurd (hbytes ▸ List.prefix_append _ _) (hrun.noChar c)
  | @replaced run rest text hrun hrest ih =>
    generalize hbytes : run ++ rest = bytes at h'
    cases h' with
    | nil => exact absurd (List.append_eq_nil_iff.mp hbytes).1 hrun.nonempty
    | char d => exact absurd (hbytes ▸ List.prefix_append _ _) (hrun.noChar d)
    | replaced hrun' hrest' =>
      have hlength := Nat.le_antisymm (hrun.length_le hrun' hbytes)
        (hrun'.length_le hrun hbytes.symm)
      obtain ⟨rfl, rfl⟩ := List.append_inj hbytes hlength
      rw [ih hrest']

/-! ## The bytes of a character -/

/-- The last bytes of a character with a value, so many of them. -/
def lastBytes (value : Nat) : Nat → List UInt8
  | 0 => []
  | count + 1 => UInt8.ofNat (value / 64 ^ count % 64 + 0x80) :: lastBytes value count

theorem length_lastBytes (value : Nat) : ∀ count, (lastBytes value count).length = count
  | 0 => rfl
  | count + 1 => congrArg (· + 1) (length_lastBytes value count)

/-- The values of the characters that have so many bytes after the first one. -/
def HasMore (value : Nat) : Nat → Prop
  | 0 => value < 0x80
  | 1 => 0x80 ≤ value ∧ value < 0x800
  | 2 => 0x800 ≤ value ∧ value < 0x10000 ∧ ¬ (0xD800 ≤ value ∧ value < 0xE000)
  | 3 => 0x10000 ≤ value ∧ value < 0x110000
  | _ => False

/-- What tells the number of bytes after the first one. -/
def mark : Nat → Nat
  | 0 => 0
  | 1 => 0xC0
  | 2 => 0xE0
  | _ => 0xF0

/-- A character has a first byte with a mark and the first bits of its value, and then six bits of
it in each byte. -/
theorem encode_eq (c : Char) : ∃ more, HasMore c.toNat more ∧
    String.utf8EncodeChar c =
      UInt8.ofNat (c.toNat / 64 ^ more + mark more) :: lastBytes c.toNat more := by
  have hvalid : c.toNat < 0xD800 ∨ 0xDFFF < c.toNat ∧ c.toNat < 0x110000 := c.valid
  unfold String.utf8EncodeChar
  dsimp only
  rw [show c.val.toNat = c.toNat from rfl]
  generalize c.toNat = value at hvalid
  split
  · exact ⟨0, by simp only [HasMore]; omega, by simp [mark, lastBytes]⟩
  split
  · have hfirst : value / 64 % 32 = value / 64 := by omega
    exact ⟨1, by simp only [HasMore]; omega, by simp [mark, lastBytes, hfirst]⟩
  split
  · have hfirst : value / 4096 % 16 = value / 4096 := by omega
    exact ⟨2, by simp only [HasMore]; omega, by simp [mark, lastBytes, hfirst]⟩
  · have hfirst : value / 262144 % 8 = value / 262144 := by omega
    exact ⟨3, by simp only [HasMore]; omega, by simp [mark, lastBytes, hfirst]⟩

/-- A value does not take two numbers of bytes. -/
theorem HasMore.unique {value more more' : Nat} (h : HasMore value more)
    (h' : HasMore value more') : more = more' := by
  match more, more' with
  | 0, 0 | 1, 1 | 2, 2 | 3, 3 => rfl
  | 0, 1 | 0, 2 | 0, 3 | 1, 0 | 1, 2 | 1, 3 | 2, 0 | 2, 1 | 2, 3 | 3, 0 | 3, 1 | 3, 2 =>
    simp only [HasMore] at h h'
    omega
  | _ + 4, _ => exact h.elim
  | _, _ + 4 => exact h'.elim

/-- Every such value is that of a character. -/
theorem exists_encode {value more : Nat} (h : HasMore value more) : ∃ c : Char, c.toNat = value ∧
    String.utf8EncodeChar c =
      UInt8.ofNat (value / 64 ^ more + mark more) :: lastBytes value more := by
  have hvalid : value.isValidChar := by
    match more with
    | 0 | 1 | 2 | 3 =>
      simp only [HasMore] at h
      unfold Nat.isValidChar
      omega
    | _ + 4 => exact h.elim
  have hvalue : (Char.ofNatAux value hvalid).toNat = value := rfl
  obtain ⟨more', hmore', hencode⟩ := encode_eq (Char.ofNatAux value hvalid)
  rw [hvalue] at hmore' hencode
  exact ⟨_, hvalue, h.unique hmore' ▸ hencode⟩

/-! ## Between two bytes -/

/-- What is known within a character of which more than `more` bytes are missing: which values are
left, by their first bits and by the bounds of the next byte. -/
structure Pending (bytes : List UInt8) (value more low high : Nat) : Prop where
  bounds : 0x80 ≤ low ∧ low ≤ high ∧ high ≤ 0xBF
  /-- A character that begins so has such a value. -/
  sound : ∀ c : Char, bytes <+: String.utf8EncodeChar c →
    String.utf8EncodeChar c = bytes ++ lastBytes c.toNat (more + 1) ∧
      c.toNat / 64 ^ (more + 1) = value ∧
      low ≤ c.toNat / 64 ^ more % 64 + 0x80 ∧ c.toNat / 64 ^ more % 64 + 0x80 ≤ high
  /-- Every such value is that of a character that begins so. -/
  complete : ∀ n, n / 64 ^ (more + 1) = value → low ≤ n / 64 ^ more % 64 + 0x80 →
    n / 64 ^ more % 64 + 0x80 ≤ high →
      ∃ c : Char, c.toNat = n ∧ String.utf8EncodeChar c = bytes ++ lastBytes n (more + 1)

/-- The first bits of a value without the last six of them. -/
theorem div_pow_succ (n count : Nat) : n / 64 ^ (count + 1) = n / 64 ^ count / 64 := by
  rw [Nat.pow_succ, Nat.div_div_eq_div_mul]

/-- Six bits and a mark fit into a byte. -/
theorem toNat_lastByte (n : Nat) : (UInt8.ofNat (n % 64 + 0x80)).toNat = n % 64 + 0x80 :=
  UInt8.toNat_ofNat_of_lt' (by show _ < 256; omega)

namespace Pending

variable {bytes : List UInt8} {value more low high : Nat} (h : Pending bytes value more low high)
  {b : UInt8}
include h

/-- A character that begins so goes on with a byte within the bounds. -/
theorem next {c : Char} (hc : bytes ++ [b] <+: String.utf8EncodeChar c) :
    low ≤ b.toNat ∧ b.toNat ≤ high ∧
      String.utf8EncodeChar c = bytes ++ [b] ++ lastBytes c.toNat more ∧
      c.toNat / 64 ^ more = value * 64 + (b.toNat - 0x80) := by
  obtain ⟨hencode, hvalue, hlow, hhigh⟩ := h.sound c ((List.prefix_append _ _).trans hc)
  rw [hencode, List.prefix_append_right_inj, lastBytes, List.cons_prefix_cons] at hc
  have hb : b.toNat = c.toNat / 64 ^ more % 64 + 0x80 := by rw [hc.1, toNat_lastByte]
  rw [div_pow_succ] at hvalue
  refine ⟨by omega, by omega, ?_, by omega⟩
  rw [hencode, lastBytes, ← hc.1, List.append_assoc, List.singleton_append]

/-- A byte out of bounds does not go on with a character. -/
theorem not_begins (hb : ¬ (low ≤ b.toNat ∧ b.toNat ≤ high)) : ¬ Begins (bytes ++ [b]) := by
  rintro ⟨c, hc⟩
  obtain ⟨hlow, hhigh, -⟩ := h.next hc
  exact hb ⟨hlow, hhigh⟩

variable (hlow : low ≤ b.toNat) (hhigh : b.toNat ≤ high)
include hlow hhigh

/-- With a byte within the bounds, each value that has its bits is that of a character. -/
theorem exists_char {n : Nat} (hn : n / 64 ^ more = value * 64 + (b.toNat - 0x80)) :
    ∃ c : Char, c.toNat = n ∧ String.utf8EncodeChar c = bytes ++ [b] ++ lastBytes n more := by
  have hbounds := h.bounds
  have hb : n / 64 ^ more % 64 + 0x80 = b.toNat := by omega
  obtain ⟨c, hc, hencode⟩ := h.complete n (by rw [div_pow_succ]; omega) (by omega) (by omega)
  refine ⟨c, hc, ?_⟩
  rw [hencode, lastBytes, hb, UInt8.ofNat_toNat, List.append_assoc, List.singleton_append]

/-- A byte within the bounds begins a character, together with the bytes before it. -/
theorem begins_next : Begins (bytes ++ [b]) := by
  have hn : (value * 64 + (b.toNat - 0x80)) * 64 ^ more / 64 ^ more =
      value * 64 + (b.toNat - 0x80) := Nat.mul_div_cancel _ (Nat.pow_pos (by decide))
  obtain ⟨c, -, hencode⟩ := h.exists_char hlow hhigh hn
  exact ⟨c, hencode ▸ List.prefix_append _ _⟩

/-- The last byte completes a character. -/
theorem complete_last (hmore : more = 0) :
    String.utf8EncodeChar (Char.ofNat (value * 64 + (b.toNat - 0x80))) = bytes ++ [b] := by
  subst hmore
  obtain ⟨c, hc, hencode⟩ := h.exists_char hlow hhigh (n := value * 64 + (b.toNat - 0x80))
    (by rw [Nat.pow_zero, Nat.div_one])
  rw [← hc, Char.ofNat_toNat, hencode, lastBytes, List.append_nil]

/-- Any other byte leaves one byte less missing, and the next one without bounds of its own. -/
theorem step {k : Nat} (hmore : more = k + 1) :
    Pending (bytes ++ [b]) (value * 64 + (b.toNat - 0x80)) k 0x80 0xBF := by
  subst hmore
  refine ⟨by decide, fun c hc => ?_, fun n hn _ _ => ?_⟩
  · obtain ⟨-, -, hencode, hvalue⟩ := h.next hc
    exact ⟨hencode, hvalue, by omega, by omega⟩
  · exact h.exists_char hlow hhigh hn

end Pending

/-! ## The first byte of a character -/

/-- The first byte of a character tells how many follow. -/
theorem firstByte_cases {n more : Nat} (h : HasMore n more) :
    (more = 0 ∧ n / 64 ^ more + mark more < 0x80) ∨
    (more = 1 ∧ 0xC2 ≤ n / 64 ^ more + mark more ∧ n / 64 ^ more + mark more ≤ 0xDF) ∨
    (more = 2 ∧ 0xE0 ≤ n / 64 ^ more + mark more ∧ n / 64 ^ more + mark more ≤ 0xEF) ∨
    (more = 3 ∧ 0xF0 ≤ n / 64 ^ more + mark more ∧ n / 64 ^ more + mark more ≤ 0xF4) := by
  match more with
  | 0 | 1 | 2 | 3 =>
    simp only [HasMore] at h
    simp only [mark, Nat.reducePow, true_and]
    omega
  | _ + 4 => exact h.elim

/-- A character begins with a byte iff its first bits and its mark make up that byte. -/
theorem begins_with {b : UInt8} {c : Char} (hc : [b] <+: String.utf8EncodeChar c) :
    ∃ more, HasMore c.toNat more ∧ c.toNat / 64 ^ more + mark more = b.toNat ∧
      String.utf8EncodeChar c = b :: lastBytes c.toNat more := by
  obtain ⟨more, hmore, hencode⟩ := encode_eq c
  rw [hencode, List.cons_prefix_cons] at hc
  have hcases := firstByte_cases hmore
  have hfirst : (UInt8.ofNat (c.toNat / 64 ^ more + mark more)).toNat =
      c.toNat / 64 ^ more + mark more := UInt8.toNat_ofNat_of_lt' (by show _ < 256; omega)
  exact ⟨more, hmore, by rw [hc.1, hfirst], hc.1 ▸ hencode⟩

/-- What the first byte of a longer character tells, where the values that are left are those with
the next byte in some bounds. -/
theorem pending_lead {b : UInt8} {value low high : Nat} (more : Nat)
    (hbounds : 0x80 ≤ low ∧ low ≤ high ∧ high ≤ 0xBF)
    (hb : (more = 0 ∧ 0xC2 ≤ b.toNat ∧ b.toNat ≤ 0xDF) ∨
      (more = 1 ∧ 0xE0 ≤ b.toNat ∧ b.toNat ≤ 0xEF) ∨ (more = 2 ∧ 0xF0 ≤ b.toNat ∧ b.toNat ≤ 0xF4))
    (hvalues : ∀ n, HasMore n (more + 1) ∧ n / 64 ^ (more + 1) + mark (more + 1) = b.toNat ↔
      n / 64 ^ (more + 1) = value ∧
        low ≤ n / 64 ^ more % 64 + 0x80 ∧ n / 64 ^ more % 64 + 0x80 ≤ high) :
    Pending [b] value more low high := by
  refine ⟨hbounds, fun c hc => ?_, fun n hn hlow hhigh => ?_⟩
  · obtain ⟨more', hhas, hfirst, hencode⟩ := begins_with hc
    obtain rfl : more' = more + 1 := by
      have hcases := firstByte_cases hhas
      omega
    obtain ⟨hvalue, hlow, hhigh⟩ := (hvalues _).mp ⟨hhas, hfirst⟩
    exact ⟨hencode, hvalue, hlow, hhigh⟩
  · obtain ⟨hhas, hfirst⟩ := (hvalues n).mpr ⟨hn, hlow, hhigh⟩
    obtain ⟨c, hc, hencode⟩ := exists_encode hhas
    refine ⟨c, hc, ?_⟩
    rw [hencode, hfirst, UInt8.ofNat_toNat, List.singleton_append]

/-- A pending character is one. -/
theorem Pending.begins {bytes : List UInt8} {value more low high : Nat}
    (h : Pending bytes value more low high) : Begins bytes := by
  have hbounds := h.bounds
  have hlow : (UInt8.ofNat low).toNat = low := UInt8.toNat_ofNat_of_lt' (by show _ < 256; omega)
  have hnext : Begins (bytes ++ [UInt8.ofNat low]) := h.begins_next (by omega) (by omega)
  exact hnext.imp fun c hc => (List.prefix_append _ _).trans hc

/-- The first byte of a character is all of it, begins it, or is no such byte. -/
theorem lead_cases (b : UInt8) :
    (∃ c : Char, lead b.toNat = (.start, [c]) ∧ String.utf8EncodeChar c = [b]) ∨
    (∃ value more low high, lead b.toNat = (.inside value (more + 1) low high, []) ∧
      Pending [b] value more low high) ∨
    (lead b.toNat = (.start, [replacement]) ∧ ¬ Begins [b]) := by
  have hpending {value more low high : Nat} (h : Pending [b] value more low high) :
      ∃ value' more' low' high',
        ((State.inside value (more + 1) low high, []) : State × List Char) =
          (.inside value' (more' + 1) low' high', []) ∧ Pending [b] value' more' low' high' :=
    ⟨value, more, low, high, rfl, h⟩
  generalize hlead : lead b.toNat = next
  unfold lead at hlead
  split_ifs at hlead <;> subst hlead
  · next hb =>
    have hmore : HasMore b.toNat 0 := hb
    obtain ⟨c, hc, hencode⟩ := exists_encode hmore
    refine .inl ⟨c, by rw [← hc, Char.ofNat_toNat], ?_⟩
    rw [hencode, Nat.pow_zero, Nat.div_one, mark, Nat.add_zero, UInt8.ofNat_toNat, lastBytes]
  -- the rows of the table of first bytes, which differ in the values that they leave
  · refine .inr (.inl (hpending (pending_lead 0 (by decide) (by omega) fun n => ?_)))
    simp only [HasMore, mark, Nat.reducePow, Nat.reduceAdd]
    omega
  · refine .inr (.inl (hpending (pending_lead 1 (by decide) (by omega) fun n => ?_)))
    simp only [HasMore, mark, Nat.reducePow, Nat.reduceAdd]
    omega
  · refine .inr (.inl (hpending (pending_lead 1 (by decide) (by omega) fun n => ?_)))
    simp only [HasMore, mark, Nat.reducePow, Nat.reduceAdd]
    omega
  · refine .inr (.inl (hpending (pending_lead 1 (by decide) (by omega) fun n => ?_)))
    simp only [HasMore, mark, Nat.reducePow, Nat.reduceAdd]
    omega
  · refine .inr (.inl (hpending (pending_lead 2 (by decide) (by omega) fun n => ?_)))
    simp only [HasMore, mark, Nat.reducePow, Nat.reduceAdd]
    omega
  · refine .inr (.inl (hpending (pending_lead 2 (by decide) (by omega) fun n => ?_)))
    simp only [HasMore, mark, Nat.reducePow, Nat.reduceAdd]
    omega
  · refine .inr (.inl (hpending (pending_lead 2 (by decide) (by omega) fun n => ?_)))
    simp only [HasMore, mark, Nat.reducePow, Nat.reduceAdd]
    omega
  · refine .inr (.inr ⟨rfl, ?_⟩)
    rintro ⟨c, hc⟩
    obtain ⟨more, hhas, hfirst, -⟩ := begins_with hc
    have hcases := firstByte_cases hhas
    omega

/-! ## Whole streams -/

/-- The characters that come of the rest of a stream. -/
def decodeFrom (s : State) : List UInt8 → List Char
  | [] => finish s
  | b :: rest => (step s b).2 ++ decodeFrom (step s b).1 rest

/-- A piece of a stream yields characters, and the state in which the rest is read. -/
theorem feed_decodeFrom (s : State) (bytes rest : List UInt8) :
    (feed s bytes).2 ++ decodeFrom (feed s bytes).1 rest = decodeFrom s (bytes ++ rest) := by
  -- the characters are collected in reverse, in front of those that were there before
  have hfold : ∀ (bytes : List UInt8) (s : State) (done : List Char),
      let fed := bytes.foldl (fun (fed : State × List Char) b =>
        ((step fed.1 b).1, (step fed.1 b).2.foldl (fun done c => c :: done) fed.2)) (s, done)
      fed.2.reverse ++ decodeFrom fed.1 rest = done.reverse ++ decodeFrom s (bytes ++ rest) := by
    intro bytes
    induction bytes with
    | nil => exact fun s done => rfl
    | cons b bytes ih =>
      intro s done
      have hnext := ih (step s b).1 ((step s b).2.foldl (fun done c => c :: done) done)
      rw [List.foldl_flip_cons_eq_append', List.reverse_append, List.reverse_reverse,
        List.append_assoc] at hnext
      simp only [List.foldl_cons, List.cons_append, decodeFrom]
      rw [List.foldl_flip_cons_eq_append']
      exact hnext
  have hfed := hfold bytes s []
  exact hfed

theorem decode_eq (bytes : List UInt8) : decode bytes = decodeFrom .start bytes := by
  have hfeed := feed_decodeFrom .start bytes []
  rw [List.append_nil] at hfeed
  exact hfeed

/-- A byte within a character completes it, goes on with it, or does not belong to it and is read as
a first byte. -/
theorem step_cases {bytes : List UInt8} {value more low high : Nat}
    (h : Pending bytes value more low high) (b : UInt8) :
    (∃ c : Char, step (.inside value (more + 1) low high) b = (.start, [c]) ∧
      String.utf8EncodeChar c = bytes ++ [b]) ∨
    (∃ value' more' low' high', step (.inside value (more + 1) low high) b =
      (.inside value' (more' + 1) low' high', []) ∧ Pending (bytes ++ [b]) value' more' low' high') ∨
    (step (.inside value (more + 1) low high) b =
      ((lead b.toNat).1, replacement :: (lead b.toNat).2) ∧ ¬ Begins (bytes ++ [b])) := by
  by_cases hb : low ≤ b.toNat ∧ b.toNat ≤ high
  · obtain ⟨hlow, hhigh⟩ := hb
    cases more with
    | zero => exact .inl ⟨_, by simp [step, hlow, hhigh], h.complete_last hlow hhigh rfl⟩
    | succ k =>
      exact .inr (.inl ⟨_, k, _, _, by simp [step, hlow, hhigh], h.step hlow hhigh rfl⟩)
  · exact .inr (.inr ⟨by rw [step, if_neg hb], h.not_begins hb⟩)

/-- Bytes that a character could have begun with are replaced at the end of the stream, or before a
byte that does not go on with it. -/
theorem Pending.replaced {bytes rest : List UInt8} {value more low high : Nat}
    (h : Pending bytes value more low high) (hne : bytes ≠ [])
    (hrest : ∀ b ∈ rest.head?, ¬ Begins (bytes ++ [b])) : Replaced bytes rest := by
  have hlongest : ∀ next, next <+: bytes ++ rest → Begins next → next.length ≤ bytes.length := by
    intro next hnext hbegins
    cases rest with
    | nil => exact (List.append_nil bytes ▸ hnext).length_le
    | cons b rest =>
      -- whatever is longer goes on with the next byte
      by_contra hlength
      have hb : bytes ++ [b] <+: bytes ++ b :: rest := ⟨rest, by simp⟩
      have hlonger : bytes ++ [b] <+: next :=
        List.prefix_of_prefix_length_le hb hnext
          (by rw [List.length_append, List.length_singleton]; omega)
      exact hrest b rfl (hbegins.imp fun c hc => hlonger.trans hc)
  refine ⟨hne, fun c hc => ?_, .inr h.begins, hlongest⟩
  -- a character that stands there would be the one that could have begun so, but it is longer
  have hlength := hlongest _ hc ⟨c, List.prefix_rfl⟩
  have hwithin := List.prefix_of_prefix_length_le hc (List.prefix_append bytes rest) hlength
  obtain ⟨d, hd⟩ := h.begins
  obtain rfl := eq_of_encode_prefix (hwithin.trans hd)
  obtain ⟨hencode, -⟩ := h.sound c hd
  rw [hencode, List.length_append, length_lastBytes] at hlength
  omega

/-- A byte with which no character begins is replaced. -/
theorem replaced_singleton {b : UInt8} (hb : ¬ Begins [b]) (rest : List UInt8) :
    Replaced [b] rest := by
  have hnil : ∀ next, next <+: [b] ++ rest → Begins next → next = [] := by
    rintro (_ | ⟨x, next⟩) hnext ⟨c, hc⟩
    · rfl
    · obtain ⟨rfl, -⟩ := List.cons_prefix_cons.mp hnext
      exact absurd ⟨c, (List.prefix_append [x] next).trans hc⟩ hb
  refine ⟨List.cons_ne_nil _ _, fun c hc => ?_, .inl rfl, fun next hnext hbegins => ?_⟩
  · exact String.utf8EncodeChar_ne_nil (hnil _ hc ⟨c, List.prefix_rfl⟩)
  · rw [hnil next hnext hbegins]
    exact Nat.zero_le _

/-- What the decoder makes of the rest of a stream, between two characters and within one. -/
theorem decodes_decodeFrom : ∀ rest : List UInt8,
    Decodes rest (decodeFrom .start rest) ∧
    ∀ {bytes : List UInt8} {value more low high : Nat}, bytes ≠ [] →
      Pending bytes value more low high →
        Decodes (bytes ++ rest) (decodeFrom (.inside value (more + 1) low high) rest)
  | [] => ⟨.nil, fun hne h => .replaced (h.replaced hne (by simp)) .nil⟩
  | b :: rest => by
    obtain ⟨hrest, hinside⟩ := decodes_decodeFrom rest
    have hstart : Decodes (b :: rest) (decodeFrom .start (b :: rest)) := by
      rw [decodeFrom, step]
      rcases lead_cases b with ⟨c, hlead, hencode⟩ | ⟨value, more, low, high, hlead, h⟩ | ⟨hlead, hb⟩
      · have hchar := Decodes.char c hrest
        rw [hencode] at hchar
        rwa [hlead]
      · rw [hlead]
        exact hinside (List.cons_ne_nil _ _) h
      · rw [hlead]
        exact .replaced (replaced_singleton hb rest) hrest
    refine ⟨hstart, fun {bytes value more low high} hne h => ?_⟩
    rw [decodeFrom]
    rcases step_cases h b with ⟨c, hstep, hencode⟩ | ⟨value', more', low', high', hstep, h'⟩ |
      ⟨hstep, hb⟩
    · have hchar := Decodes.char c hrest
      rw [hencode, List.append_assoc, List.singleton_append] at hchar
      rwa [hstep]
    · have hmore := hinside (by simp) h'
      rw [List.append_assoc, List.singleton_append] at hmore
      rwa [hstep]
    · rw [hstep]
      exact .replaced (h.replaced hne (by rintro _ ⟨⟩; exact hb)) hstart

/-- Every stream has one text, which is what the decoder makes of it. -/
theorem decodes_iff {bytes : List UInt8} {text : List Char} :
    Decodes bytes text ↔ decode bytes = text := by
  have hdecode : Decodes bytes (decode bytes) :=
    decode_eq bytes ▸ (decodes_decodeFrom bytes).1
  exact ⟨fun h => hdecode.unique h, fun h => h ▸ hdecode⟩

end Playground.Text.Utf8
