import Mathlib
import DexTriage.Image.Uleb128
import DexTriage.Proofs.Bytes
import DexTriage.Proofs.Except

/-!
# Spellings of variable-length numbers

`IsSpelling` says where the bytes of a number end, and `number` what they spell: their low seven
bits are digits to the base 128. The reader follows the bytes of a number to their end
(`readFrom_spelling`), and what it gives is never anything else (`spelling_of_readFrom`), so that a
number is read exactly where up to five bytes of the buffer spell it (`read_eq_ok_iff`).
-/

namespace DexTriage

/-- The byte at the head of what is behind an offset is the byte at the offset. -/
lemma Bytes.byteAt_eq_ok {data : Bytes} {offset byte rest}
    (behind : data.toList.drop offset = byte :: rest) : data.byteAt offset = .ok byte := by
  have inside : offset < data.toList.length := by
    by_contra outside
    rw [List.drop_eq_nil_of_le (not_lt.1 outside)] at behind
    cases behind
  rw [Array.length_toList] at inside
  rw [byteAt, numberAt, if_pos (by omega), window_eq, behind]
  simp [littleEndian, Except.map]

/-- A byte that is read is in the buffer. -/
lemma Bytes.inside_of_byteAt {data : Bytes} {offset byte} (read : data.byteAt offset = .ok byte) :
    offset + 1 ≤ data.size := by
  by_contra outside
  rw [byteAt, numberAt, if_neg outside] at read
  cases read

/-- A byte that is read is the head of what is behind its offset. -/
lemma Bytes.drop_of_byteAt {data : Bytes} {offset byte} (read : data.byteAt offset = .ok byte) :
    data.toList.drop offset = byte :: data.toList.drop (offset + 1) := by
  have inside := inside_of_byteAt read
  have head : data.toList.drop offset = data[offset] :: data.toList.drop (offset + 1) := by
    rw [List.drop_eq_getElem_cons (by rw [Array.length_toList]; omega), Array.getElem_toList]
  rw [byteAt_eq_ok head, Except.ok.injEq] at read
  rw [head, read]

namespace Uleb128

/-- Bytes spell a number to its end: all but the last have their high bit set. -/
inductive IsSpelling : List UInt8 → Prop where
  | last {byte} :
    byte.toNat < 128 →
    IsSpelling [byte]
  | more {byte bytes} :
    128 ≤ byte.toNat →
    IsSpelling bytes →
    IsSpelling (byte :: bytes)

/-- The number that bytes spell with seven bits each, the lowest first. -/
def number (bytes : List UInt8) : Nat :=
  Nat.ofDigits 128 (bytes.map fun byte => byte.toNat % 128)

@[simp] lemma number_nil : number [] = 0 := rfl

@[simp] lemma number_cons (byte bytes) :
    number (byte :: bytes) = byte.toNat % 128 + 128 * number bytes := by
  rw [number, List.map_cons, Nat.ofDigits_cons]
  rfl

/-- Bytes spell a number below the power of 128 that their count is. -/
lemma number_lt (bytes : List UInt8) : number bytes < 128 ^ bytes.length := by
  have digits : ∀ digit ∈ bytes.map fun byte => byte.toNat % 128, digit < 128 := by
    intro digit mem
    obtain ⟨byte, -, rfl⟩ := List.mem_map.1 mem
    exact Nat.mod_lt _ (by decide)
  have small := Nat.ofDigits_lt_base_pow_length (by decide) digits
  rwa [List.length_map] at small

/-- There is a byte that ends the number. -/
lemma IsSpelling.length_pos {bytes} (spelling : IsSpelling bytes) : 1 ≤ bytes.length := by
  cases spelling with
  | last _ => exact Nat.le_refl 1
  | more _ _ => exact Nat.le_add_left 1 _

/-- A spelling by its last byte and those before it. -/
lemma isSpelling_concat_iff {high : List UInt8} {last : UInt8} :
    IsSpelling (high ++ [last]) ↔ (∀ byte ∈ high, 128 ≤ byte.toNat) ∧ last.toNat < 128 := by
  induction high with
  | nil =>
    constructor
    · intro spelling
      cases spelling with
      | last low => exact ⟨nofun, low⟩
      | more _ spelling => cases spelling
    · rintro ⟨-, low⟩
      exact .last low
  | cons byte high ih =>
    rw [List.forall_mem_cons, and_assoc, ← ih, List.cons_append]
    constructor
    · intro spelling
      cases eq : high ++ [last] with
      | nil => cases List.append_ne_nil_of_right_ne_nil high (List.cons_ne_nil last []) eq
      | cons next bytes =>
        rw [eq] at spelling
        cases spelling with
        | more high spelling => exact ⟨high, spelling⟩
    · rintro ⟨high, spelling⟩
      exact .more high spelling

/-- The last byte of a number has its digit in front of those before it. -/
lemma number_concat (high : List UInt8) (last : UInt8) :
    number (high ++ [last]) = number high + 128 ^ high.length * (last.toNat % 128) := by
  rw [number, List.map_append, Nat.ofDigits_append, List.map_singleton, Nat.ofDigits_singleton,
    List.length_map]
  rfl

/-- Seven bits more in front of a value, and the rest of the number in front of them. -/
lemma number_cons_shifted (value width : Nat) (byte bytes) :
    value + (byte.toNat % 128) <<< (7 * width) + number bytes * 2 ^ (7 * (width + 1)) =
      value + number (byte :: bytes) * 2 ^ (7 * width) := by
  rw [Nat.shiftLeft_eq, number_cons, Nat.mul_add 7, Nat.pow_add]
  ring

/-- The bytes of a number are followed to its end, if there is room for them. -/
lemma readFrom_spelling {data : Bytes} {start room width value : Nat} {bytes rest}
    (spelling : IsSpelling bytes) (fits : bytes.length ≤ room)
    (behind : data.toList.drop (start + width) = bytes ++ rest) :
    readFrom data start room width value =
      .ok (UInt32.ofNat (value + number bytes * 2 ^ (7 * width)), width + bytes.length) := by
  induction spelling generalizing room width value with
  | @last byte low =>
    obtain ⟨room, rfl⟩ : ∃ less, room = less + 1 := Nat.exists_eq_add_of_le' fits
    rw [readFrom, Bytes.byteAt_eq_ok behind, ok_bind, if_pos low, number_cons, number_nil,
      Nat.mul_zero, Nat.add_zero, Nat.shiftLeft_eq]
    rfl
  | @more byte bytes high _ ih =>
    rw [List.length_cons] at fits
    obtain ⟨room, rfl⟩ : ∃ less, room = less + 1 :=
      Nat.exists_eq_add_of_le' (Nat.le_of_add_left_le fits)
    have behind' : data.toList.drop (start + (width + 1)) = bytes ++ rest := by
      rw [← Nat.add_assoc, ← List.drop_drop, behind]
      rfl
    rw [readFrom, Bytes.byteAt_eq_ok behind, ok_bind, if_neg (not_lt.2 high),
      ih (Nat.le_of_succ_le_succ fits) behind', number_cons_shifted, List.length_cons,
      Nat.add_assoc, Nat.add_comm 1]

/-- A number that is read is spelled by bytes for which there is room. -/
lemma spelling_of_readFrom {data : Bytes} {start room width value result width'}
    (read : readFrom data start room width value = .ok (result, width')) :
    ∃ bytes rest, data.toList.drop (start + width) = bytes ++ rest ∧ IsSpelling bytes ∧
      bytes.length ≤ room ∧ width' = width + bytes.length ∧
      result = UInt32.ofNat (value + number bytes * 2 ^ (7 * width)) := by
  induction room generalizing width value with
  | zero => cases read
  | succ room ih =>
    rw [readFrom, bind_eq_ok_iff] at read
    obtain ⟨byte, found, read⟩ := read
    have behind := Bytes.drop_of_byteAt found
    by_cases low : byte.toNat < 128
    · simp only [if_pos low] at read
      cases read
      refine ⟨[byte], _, behind, .last low, Nat.le_add_left 1 room, rfl, ?_⟩
      rw [number_cons, number_nil, Nat.mul_zero, Nat.add_zero, Nat.shiftLeft_eq]
    · simp only [if_neg low] at read
      obtain ⟨bytes, rest, later, spelling, fits, rfl, rfl⟩ := ih read
      refine ⟨byte :: bytes, rest, ?_, .more (not_lt.1 low) spelling, Nat.succ_le_succ fits, ?_, ?_⟩
      · rw [behind, Nat.add_assoc, later]
        rfl
      · rw [List.length_cons, Nat.add_assoc, Nat.add_comm 1]
      · rw [number_cons_shifted]

/-- A number is read exactly where up to five bytes of the buffer spell it; it is what they spell
but for bits beyond the 32 of a word. -/
lemma read_eq_ok_iff {data : Bytes} {offset value width} :
    read data offset = .ok (value, width) ↔
      width ≤ 5 ∧ offset + width ≤ data.size ∧ IsSpelling (data.window offset width) ∧
        value = UInt32.ofNat (number (data.window offset width)) := by
  constructor
  · intro result
    obtain ⟨bytes, rest, behind, spelling, fits, rfl, rfl⟩ := spelling_of_readFrom result
    have length : bytes.length ≤ data.size - offset := by
      have total := congrArg List.length behind
      rw [List.length_drop, Array.length_toList, List.length_append] at total
      omega
    have window : data.window offset (0 + bytes.length) = bytes := by
      rw [Nat.zero_add, Bytes.window_eq, ← Nat.add_zero offset, behind, List.take_left']
      rfl
    have some_byte := spelling.length_pos
    rw [window, Nat.zero_add, Nat.zero_add, Nat.mul_zero, Nat.pow_zero, Nat.mul_one]
    exact ⟨fits, by omega, spelling, rfl⟩
  · rintro ⟨narrow, inside, spelling, rfl⟩
    have length := Bytes.length_window inside
    have behind : data.toList.drop (offset + 0) =
        data.window offset width ++ data.toList.drop (offset + width) := by
      rw [Nat.add_zero, Bytes.window_eq, ← List.drop_drop, List.take_append_drop]
    have follow : readFrom data offset maxWidth 0 0 = _ :=
      readFrom_spelling spelling (length.trans_le narrow) behind
    simpa [read, length] using follow

end Uleb128

end DexTriage
