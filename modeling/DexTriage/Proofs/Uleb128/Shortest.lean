import Mathlib
import DexTriage.Proofs.Uleb128.Outcome

/-!
# Numbers are written as short as can be

What is written for a number is its shortest spelling (`length_encode_le_of_read`). Of the bytes
that spell a number, those that are written for it are the ones whose last byte is not zero, unless
it is the only one (`encodeNat_number_iff`), and is not cut to the 32 bits of a word
(`encode_eq_window_iff`). Numbers that are written one behind the other are read back to back
(`readRow_of_encode`).
-/

namespace DexTriage.Uleb128

/-- A number with more than one digit is written as its last digit and the others. -/
lemma encodeNat_cons {byte : UInt8} {high : Nat} (more : 128 ≤ byte.toNat) (some_digit : 1 ≤ high) :
    encodeNat (byte.toNat % 128 + 128 * high) = byte :: encodeNat high := by
  have small := byte.toNat_lt
  have digit : (byte.toNat % 128 + 128 * high) % 128 + 128 = byte.toNat := by omega
  have others : (byte.toNat % 128 + 128 * high) / 128 = high := by omega
  rw [encodeNat, if_neg (by omega), digit, others, UInt8.ofNat_toNat]

/-- Bytes that spell a number are written for it exactly if the last one is not zero, or is the only
one. -/
lemma encodeNat_number_iff {high : List UInt8} {last : UInt8}
    (on : ∀ byte ∈ high, 128 ≤ byte.toNat) (low : last.toNat < 128) :
    encodeNat (number (high ++ [last])) = high ++ [last] ↔ high = [] ∨ last ≠ 0 := by
  induction high with
  | nil =>
    have single : number [last] = last.toNat := by
      rw [number_cons, number_nil, Nat.mul_zero, Nat.add_zero, Nat.mod_eq_of_lt low]
    rw [List.nil_append, single, encodeNat, if_pos low, UInt8.ofNat_toNat]
    simp
  | cons byte high ih =>
    obtain ⟨more, on⟩ := List.forall_mem_cons.1 on
    rw [List.cons_append, number_cons]
    by_cases some_digit : 1 ≤ number (high ++ [last])
    · -- the first byte is as it should be, so that it depends on the others
      rw [encodeNat_cons more some_digit, List.cons.injEq, and_iff_right rfl, ih on]
      constructor
      · rintro (rfl | nonzero)
        · refine .inr fun zero => ?_
          rw [zero] at some_digit
          cases some_digit
        · exact .inr nonzero
      · rintro (none | nonzero)
        · cases none
        · exact .inr nonzero
    · -- a single byte is written for a number without other digits
      have none : number (high ++ [last]) = 0 := by omega
      have zero : last = 0 := by
        have digit := number_concat high last
        rw [none, Nat.mod_eq_of_lt low] at digit
        have top : 128 ^ high.length * last.toNat = 0 := by omega
        apply UInt8.toNat_inj.1
        exact (Nat.mul_eq_zero.1 top).resolve_left (by positivity)
      have single : byte.toNat % 128 + 128 * number (high ++ [last]) < 128 := by omega
      rw [encodeNat, if_pos single]
      simp [zero]

variable {data : Bytes} {offset width : Nat} {value : UInt32}

/-- No bytes that a number is read from are fewer than those that are written for it. -/
lemma length_encode_le_of_read (found : read data offset = .ok (value, width)) :
    (encode value).length ≤ width := by
  obtain ⟨some_byte, -, inside⟩ := width_of_read found
  obtain ⟨-, -, -, rfl⟩ := read_eq_ok_iff.1 found
  obtain ⟨before, rfl⟩ := Nat.exists_eq_add_of_le' some_byte
  apply length_encodeNat_le_iff.2
  calc (UInt32.ofNat (number (data.window offset (before + 1)))).toNat
      ≤ number (data.window offset (before + 1)) := by
        rw [UInt32.toNat_ofNat']
        exact Nat.mod_le _ _
    _ < 128 ^ (data.window offset (before + 1)).length := number_lt _
    _ = 128 ^ (before + 1) := by rw [Bytes.length_window inside]

/-- The bytes of a number fit into a word exactly if there are less than five, or the last one has no
more than four bits. -/
lemma number_lt_iff {high : List UInt8} {last : UInt8} (narrow : high.length ≤ 4)
    (low : last.toNat < 128) :
    number (high ++ [last]) < 2 ^ 32 ↔ (high.length + 1 = 5 → last.toNat ≤ 0x0F) := by
  have others := number_lt high
  rw [number_concat, Nat.mod_eq_of_lt low]
  by_cases five : high.length = 4
  · rw [five] at others ⊢
    omega
  · have small : 128 ^ (high.length + 1) ≤ 128 ^ 4 := Nat.pow_le_pow_right (by decide) (by omega)
    have digit : 128 ^ high.length * last.toNat ≤ 128 ^ high.length * 127 :=
      Nat.mul_le_mul_left _ (Nat.le_of_lt_succ low)
    rw [Nat.pow_succ] at small
    omega

/-- The bytes that a number was read from are written for it exactly if the last one is not zero, or
is the only one, and does not have bits beyond the 32 of a word. -/
lemma encode_eq_window_iff (found : read data offset = .ok (value, width)) :
    encode value = data.window offset width ↔
      (width = 1 ∨ data.getD (offset + (width - 1)) 0 ≠ 0) ∧
        (width = 5 → (data.getD (offset + (width - 1)) 0).toNat ≤ 0x0F) := by
  obtain ⟨some_byte, narrow, inside⟩ := width_of_read found
  obtain ⟨-, -, spelling, rfl⟩ := read_eq_ok_iff.1 found
  obtain ⟨before, rfl⟩ := Nat.exists_eq_add_of_le' some_byte
  obtain ⟨high, others⟩ : ∃ high, data.window offset before = high := ⟨_, rfl⟩
  obtain ⟨last, ending⟩ : ∃ last, data.getD (offset + before) 0 = last := ⟨_, rfl⟩
  have length : high.length = before := by
    rw [← others, Bytes.length_window (by omega)]
  rw [window_succ inside, others, ending] at spelling ⊢
  rw [Nat.add_sub_cancel, ending]
  obtain ⟨on, low⟩ := isSpelling_concat_iff.1 spelling
  have only : before + 1 = 1 ↔ high = [] := by
    rw [Nat.add_eq_right, ← length, List.length_eq_zero_iff]
  have four : high.length ≤ 4 := by omega
  have fits := number_lt_iff four low
  rw [length] at fits
  rw [only, ← fits, ← encodeNat_number_iff on low, encode, UInt32.toNat_ofNat']
  constructor
  · intro written
    have small : number (high ++ [last]) < 2 ^ 32 := by
      rw [← written, number_encodeNat]
      exact Nat.mod_lt _ (by decide)
    rw [Nat.mod_eq_of_lt small] at written
    exact ⟨written, small⟩
  · rintro ⟨written, small⟩
    rw [Nat.mod_eq_of_lt small, written]

/-- Numbers that are written one behind the other are read back to back, whatever is behind them. -/
lemma readRow_of_encode {values : List UInt32} {rest}
    (behind : data.toList.drop offset = values.flatMap encode ++ rest) :
    readRow data values.length offset =
      .ok (values, offset + (values.flatMap encode).length) := by
  induction values generalizing offset with
  | nil => rfl
  | cons value values ih =>
    rw [List.flatMap_cons, List.append_assoc] at behind
    have behind' : data.toList.drop (offset + (encode value).length) =
        values.flatMap encode ++ rest := by
      rw [← List.drop_drop, behind, List.drop_left]
    rw [List.length_cons, readRow, read_encode behind, ok_bind]
    dsimp only
    rw [ih behind', ok_bind, List.flatMap_cons, List.length_append, Nat.add_assoc]
    rfl

/-- Writing numbers one after the other puts their spellings behind what is there. -/
lemma foldl_push (out : Bytes) (values : List UInt32) :
    values.foldl push out = out ++ (values.flatMap encode).toArray := by
  induction values generalizing out with
  | nil => simp
  | cons value values ih =>
    rw [List.foldl_cons, ih, push_eq, List.flatMap_cons, Array.append_assoc,
      List.append_toArray (encode value)]

/-- What is behind a buffer that others are appended to. -/
lemma drop_append_append (before after : Bytes) (bytes : List UInt8) :
    (before ++ bytes.toArray ++ after).toList.drop before.size = bytes ++ after.toList := by
  rw [Array.toList_append, Array.toList_append, List.append_assoc, ← Array.length_toList,
    List.drop_left]

/-- A number is written behind what is there in one to five bytes, and read back from there,
whatever comes behind them; a list of numbers is read back as a whole, each number from where the one
before it ended. A number is never read from fewer bytes than are written for it, and is written in
the bytes that it was read from exactly if the last of them is not zero, or is the only one, and has
no bits beyond the 32 of a word. -/
theorem read_push :
    (∀ out value, push out value = out ++ (encode value).toArray) ∧
    (∀ value, 1 ≤ (encode value).length ∧ (encode value).length ≤ 5) ∧
    (∀ before value after,
      read (push before value ++ after) before.size = .ok (value, (encode value).length)) ∧
    (∀ before values after,
      readRow (values.foldl push before ++ after) values.length before.size =
        .ok (values, (values.foldl push before).size)) ∧
    ∀ data offset value width, read data offset = .ok (value, width) →
      (encode value).length ≤ width ∧
      (encode value = data.window offset width ↔
        (width = 1 ∨ data.getD (offset + (width - 1)) 0 ≠ 0) ∧
          (width = 5 → (data.getD (offset + (width - 1)) 0).toNat ≤ 0x0F)) := by
  refine ⟨push_eq, fun value => ⟨?_, length_encode_le value⟩, fun before value after => ?_,
    fun before values after => ?_, fun data offset value width found => ?_⟩
  · exact (isSpelling_encodeNat value.toNat).length_pos
  · rw [push_eq]
    exact read_encode (drop_append_append before after _)
  · rw [foldl_push, Array.size_append, List.size_toArray]
    exact readRow_of_encode (drop_append_append before after _)
  · exact ⟨length_encode_le_of_read found, encode_eq_window_iff found⟩

/-- The greatest word can be read from bytes with bits beyond it, and zero from two bytes; neither is
written like that. -/
theorem read_push_not_shortest :
    read #[0xFF, 0xFF, 0xFF, 0xFF, 0x1F] 0 = .ok (0xFFFFFFFF, 5) ∧
    encode 0xFFFFFFFF ≠ Bytes.window #[0xFF, 0xFF, 0xFF, 0xFF, 0x1F] 0 5 ∧
    read #[0x07, 0x80, 0x00] 1 = .ok (0, 2) ∧
    encode 0 ≠ Bytes.window #[0x07, 0x80, 0x00] 1 2 := by
  obtain ⟨-, -, -, -, reread⟩ := read_push
  have surplus : read #[0xFF, 0xFF, 0xFF, 0xFF, 0x1F] 0 = .ok (0xFFFFFFFF, 5) := by decide
  have longer : read #[0x07, 0x80, 0x00] 1 = .ok (0, 2) := by decide
  refine ⟨surplus, fun written => ?_, longer, fun written => ?_⟩
  · obtain ⟨-, fits⟩ := (reread _ _ _ _ surplus).2.1 written
    exact absurd (fits rfl) (by decide)
  · obtain ⟨nonzero, -⟩ := (reread _ _ _ _ longer).2.1 written
    exact absurd nonzero (by decide)

end DexTriage.Uleb128
