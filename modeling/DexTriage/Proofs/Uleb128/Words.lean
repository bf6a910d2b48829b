import Mathlib
import DexTriage.Image.Uleb128.Words
import DexTriage.Proofs.Uleb128

/-!
# Words are wide enough for a number

Seven bits that are put in front of the bits of a value are added to it (`ofNat_group`), and the
offset of a byte that is looked for fits into 64 bits, since every byte before it was found. So a
number is read in words as it is read without bounds (`readWords_eq`), with no offset and no shift
that is too wide (`readStrict?_eq`). Seven bits that are taken off a value are its last digit to the
base 128, so that a number is written in words as it is written without bounds (`push_eq`).
-/

namespace DexTriage.Uleb128

/-- An offset that fits into 64 bits is reached. -/
lemma toNat_advance {offset : UInt64} {count : Nat} (fits : offset.toNat + count < 2 ^ 64) :
    (advance offset count).toNat = offset.toNat + count := by
  have within : offset.toNat + count < UInt64.size := fits
  rw [advance, if_pos within, UInt64.toNat_add, UInt64.toNat_ofNat',
    Nat.mod_eq_of_lt (a := count) (by omega), Nat.mod_eq_of_lt fits]

/-- A byte ends a number when its high bit is not set. -/
lemma and_high_eq_zero_iff (byte : UInt8) : byte &&& 0x80 = 0 ↔ byte.toNat < 128 := by
  have table : ∀ n < 256, (UInt8.ofNat n &&& 0x80 = 0 ↔ n < 128) := by decide +kernel
  have entry := table byte.toNat byte.toNat_lt
  rwa [UInt8.ofNat_toNat] at entry

/-- The low bits of a byte are what is left of it modulo 128. -/
lemma toNat_and_low (byte : UInt8) : (byte &&& 0x7F).toNat = byte.toNat % 128 := by
  rw [UInt8.toNat_and]
  exact Nat.and_two_pow_sub_one_eq_mod byte.toNat 7

/-- Seven bits in front of a value are added to it. -/
lemma ofNat_group {width value : Nat} (byte : UInt8) (narrow : 7 * width < 32)
    (low : value < 2 ^ (7 * width)) :
    UInt32.ofNat value ||| (byte &&& 0x7F).toUInt32 <<< UInt32.ofNat (7 * width) =
      UInt32.ofNat (value + (byte.toNat % 128) <<< (7 * width)) := by
  have shift : (UInt32.ofNat (7 * width)).toNat % 32 = 7 * width := by
    rw [UInt32.toNat_ofNat']
    omega
  have disjoint : value ||| (byte.toNat % 128) <<< (7 * width) =
      value + (byte.toNat % 128) <<< (7 * width) := by
    rw [Nat.or_comm, ← Nat.shiftLeft_add_eq_or_of_lt low, Nat.add_comm]
  apply UInt32.toNat_inj.1
  rw [UInt32.toNat_or, UInt32.toNat_shiftLeft, shift, UInt8.toNat_toUInt32, toNat_and_low,
    UInt32.toNat_ofNat', UInt32.toNat_ofNat', ← Nat.or_mod_two_pow, disjoint]

/-- A number is read on in words as without bounds. -/
lemma readWordsFrom_eq {data : Bytes} {start : UInt64} {room width value : Nat}
    (small : data.size < 2 ^ 64) (fits : start.toNat + width < 2 ^ 64) (narrow : width + room ≤ 5)
    (low : value < 2 ^ (7 * width)) :
    readWordsFrom data start room width (UInt32.ofNat value) =
      readFrom data start.toNat room width value := by
  -- on the room; a byte that was found keeps the next offset within 64 bits
  induction room generalizing width value with
  | zero => rfl
  | succ room ih =>
    rw [readWordsFrom, readFrom, toNat_advance fits]
    cases found : data.byteAt (start.toNat + width) with
    | error e => rfl
    | ok byte =>
      have inside := Bytes.inside_of_byteAt found
      have group : byte.toNat % 128 + 1 ≤ 2 ^ 7 := Nat.mod_lt _ (by decide)
      have low' : value + (byte.toNat % 128) <<< (7 * width) < 2 ^ (7 * (width + 1)) :=
        calc value + (byte.toNat % 128) <<< (7 * width)
            < 2 ^ (7 * width) + (byte.toNat % 128) <<< (7 * width) := Nat.add_lt_add_right low _
          _ = (byte.toNat % 128 + 1) * 2 ^ (7 * width) := by rw [Nat.shiftLeft_eq]; ring
          _ ≤ 2 ^ 7 * 2 ^ (7 * width) := Nat.mul_le_mul_right _ group
          _ = 2 ^ (7 * (width + 1)) := by rw [← Nat.pow_add]; ring_nf
      rw [ok_bind, ok_bind, ofNat_group byte (by omega) low]
      simp only [and_high_eq_zero_iff]
      split
      · rfl
      · exact ih (by omega) (by omega) low'

/-- A number is read in words as without bounds. -/
lemma readWords_eq {data : Bytes} (small : data.size < 2 ^ 64) (offset : UInt64) :
    readWords data offset = read data offset.toNat :=
  readWordsFrom_eq small offset.toNat_lt (Nat.le_refl 5) Nat.one_pos

/-- No offset and no shift on the way is too wide. -/
lemma readStrictFrom?_eq {data : Bytes} {start : UInt64} {room width : Nat} {value : UInt32}
    (small : data.size < 2 ^ 64) (fits : start.toNat + width < 2 ^ 64)
    (narrow : width + room ≤ 5) :
    readStrictFrom? data start room width value =
      some (readWordsFrom data start room width value) := by
  induction room generalizing width value with
  | zero => rfl
  | succ room ih =>
    have within : start.toNat + width < UInt64.size := fits
    rw [readStrictFrom?, readWordsFrom, if_pos ⟨within, by omega⟩, advance, if_pos within]
    cases found : data.byteAt (start + UInt64.ofNat width).toNat with
    | error e => rfl
    | ok byte =>
      have reached : (start + UInt64.ofNat width).toNat = start.toNat + width := by
        rw [← toNat_advance fits, advance, if_pos within]
      have inside := Bytes.inside_of_byteAt found
      rw [reached] at inside
      dsimp only
      rw [ok_bind]
      split
      · rfl
      · exact ih (by omega) (by omega)

/-- No offset and no shift is too wide when a number is read. -/
lemma readStrict?_eq {data : Bytes} (small : data.size < 2 ^ 64) (offset : UInt64) :
    readStrict? data offset = some (readWords data offset) :=
  readStrictFrom?_eq small offset.toNat_lt (Nat.le_refl 5)

/-- The low bits of a value are its last digit. -/
lemma toUInt8_and_low (value : UInt32) :
    (value &&& 0x7F).toUInt8 = UInt8.ofNat (value.toNat % 128) := by
  have low : (value &&& 0x7F).toNat = value.toNat % 128 := by
    rw [UInt32.toNat_and]
    exact Nat.and_two_pow_sub_one_eq_mod value.toNat 7
  apply UInt8.toNat_inj.1
  rw [UInt32.toNat_toUInt8, low, UInt8.toNat_ofNat']

/-- The high bit is added to a digit. -/
lemma ofNat_or_high (n : Nat) : UInt8.ofNat (n % 128) ||| 0x80 = UInt8.ofNat (n % 128 + 128) := by
  have table : ∀ digit < 128, UInt8.ofNat digit ||| 0x80 = UInt8.ofNat (digit + 128) := by
    decide +kernel
  exact table _ (Nat.mod_lt n (by decide))

/-- What is left of a value are its other digits. -/
lemma toNat_shiftRight_seven (value : UInt32) : (value >>> 7).toNat = value.toNat / 128 := by
  rw [UInt32.toNat_shiftRight]
  exact Nat.shiftRight_eq_div_pow value.toNat 7

/-- Writing a number puts its spelling behind what is there. -/
lemma push_eq (out : Bytes) (value : UInt32) : push out value = out ++ (encode value).toArray := by
  fun_induction push out value with
  | case1 out value byte none =>
    have small : value.toNat < 128 := by
      have quotient := toNat_shiftRight_seven value
      rw [none] at quotient
      exact Nat.lt_of_div_eq_zero (by decide) quotient.symm
    rw [encode, encodeNat, if_pos small]
    simp only [byte, toUInt8_and_low, Nat.mod_eq_of_lt small, Array.push_eq_append]
  | case2 out value byte more _ ih =>
    have large : ¬ value.toNat < 128 := by
      intro small
      apply more
      apply UInt32.toNat_inj.1
      rw [toNat_shiftRight_seven, Nat.div_eq_of_lt small]
      rfl
    rw [ih, encode, encode, encodeNat.eq_def value.toNat, if_neg large, toNat_shiftRight_seven]
    simp only [byte, toUInt8_and_low, ofNat_or_high, Array.push_eq_append, Array.append_assoc,
      List.append_toArray, List.singleton_append]

end DexTriage.Uleb128
