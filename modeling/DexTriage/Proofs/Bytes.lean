import Mathlib
import DexTriage.Bytes

/-!
# Bytes and words

Windows and overwriting said on lists of bytes, and words said by their four bytes. `HasWord` is
the meaning of a word at an offset; `Bytes.word` computes it (`hasWord_iff`), and writing a word
and reading it gives the word back (`littleEndian_ofWord`).
-/

namespace DexTriage

/-- Digits are the coefficients of the powers of their base. -/
lemma ofDigits_eq_sum (base : Nat) (digits : List Nat) :
    Nat.ofDigits base digits = ∑ i ∈ Finset.range digits.length, digits.getD i 0 * base ^ i := by
  induction digits with
  | nil => rfl
  | cons digit digits ih =>
    rw [List.length_cons, Finset.sum_range_succ']
    calc Nat.ofDigits base (digit :: digits)
        = base * Nat.ofDigits base digits + digit := by rw [Nat.ofDigits_cons, Nat.add_comm]
      _ = ∑ i ∈ Finset.range digits.length, base * (digits.getD i 0 * base ^ i) + digit := by
          rw [ih, Finset.mul_sum]
      _ = ∑ i ∈ Finset.range digits.length, (digit :: digits).getD (i + 1) 0 * base ^ (i + 1) +
            (digit :: digits).getD 0 0 * base ^ 0 := by
          congr 1
          · refine Finset.sum_congr rfl fun i _ => ?_
            rw [List.getD_cons_succ, pow_succ]
            ring
          · rw [List.getD_cons_zero, pow_zero, mul_one]

/-- Bytes in little-endian order are digits to the base 256. -/
lemma littleEndian_eq_ofDigits (bytes : List UInt8) :
    littleEndian bytes = Nat.ofDigits 256 (bytes.map UInt8.toNat) := by
  rw [Nat.ofDigits_eq_foldr, List.foldr_map]
  rfl

/-- A number below the width is read back from the bytes that spell it. -/
lemma littleEndian_toLittleEndian {width n : Nat} (small : n < 256 ^ width) :
    littleEndian (toLittleEndian width n) = n := by
  induction width generalizing n with
  | zero =>
    simp only [pow_zero, Nat.lt_one_iff] at small
    simp [toLittleEndian, littleEndian, small]
  | succ width ih =>
    have quotient : n / 256 < 256 ^ width := by
      rw [pow_succ] at small
      omega
    have step := ih quotient
    simp only [littleEndian] at step
    simp only [toLittleEndian, littleEndian, List.foldr_cons, step, UInt8.toNat_ofNat']
    omega

namespace Bytes

/-- The four bytes from `offset` on spell the word with the lowest byte first. -/
def HasWord (data : Bytes) (offset : Nat) (word : UInt32) : Prop :=
  ∃ a b c d, data[offset]? = some a ∧ data[offset + 1]? = some b ∧ data[offset + 2]? = some c ∧
    data[offset + 3]? = some d ∧
    word.toNat = a.toNat + 0x100 * b.toNat + 0x10000 * c.toNat + 0x1000000 * d.toNat

/-- The 32-bit word at `offset`; bytes past the end count as zero. -/
def word (data : Bytes) (offset : Nat) : UInt32 :=
  UInt32.ofNat (littleEndian (data.window offset 4))

/-- A window is a stretch of the list of bytes. -/
lemma window_eq (data : Bytes) (offset count) :
    data.window offset count = (data.toList.drop offset).take count := by
  simp [window]

/-- There are as many bytes before an offset as it says. -/
lemma length_take_toList {data : Bytes} {offset} (inside : offset ≤ data.size) :
    (data.toList.take offset).length = offset := by
  rwa [List.length_take_of_le]

/-- A window within the buffer has all of its bytes. -/
lemma length_window {data : Bytes} {offset width} (inside : offset + width ≤ data.size) :
    (data.window offset width).length = width := by
  rw [window_eq, List.length_take, List.length_drop, Array.length_toList]
  omega

/-- The four bytes of a word at the head of what is behind its offset. -/
lemma drop_eq_four_cons {data : Bytes} {offset} (inside : offset + 4 ≤ data.size) :
    data.toList.drop offset =
      data[offset] :: data[offset + 1] :: data[offset + 2] :: data[offset + 3] ::
        data.toList.drop (offset + 4) := by
  have length : offset + 4 ≤ data.toList.length := by simpa using inside
  rw [List.drop_eq_getElem_cons (by omega), List.drop_eq_getElem_cons (by omega),
    List.drop_eq_getElem_cons (by omega), List.drop_eq_getElem_cons (by omega)]
  simp

/-- A word lies at an offset when its four bytes are there and spell it. -/
lemma hasWord_iff {data : Bytes} {offset word} :
    data.HasWord offset word ↔ offset + 4 ≤ data.size ∧ data.word offset = word := by
  constructor
  · rintro ⟨a, b, c, d, at₀, at₁, at₂, at₃, value⟩
    obtain ⟨bound, -⟩ := Array.getElem?_eq_some_iff.1 at₃
    have inside : offset + 4 ≤ data.size := by omega
    refine ⟨inside, ?_⟩
    rw [Array.getElem?_eq_getElem (by omega), Option.some.injEq] at at₀ at₁ at₂ at₃
    rw [Bytes.word, window_eq, drop_eq_four_cons inside, at₀, at₁, at₂, at₃,
      ← UInt32.ofNat_toNat (x := word), value]
    simp only [List.take_succ_cons, List.take_zero, littleEndian, List.foldr_cons, List.foldr_nil]
    congr 1
    omega
  · rintro ⟨inside, rfl⟩
    refine ⟨data[offset], data[offset + 1], data[offset + 2], data[offset + 3], by simp, by simp,
      by simp, by simp, ?_⟩
    have h₀ := data[offset].toNat_lt
    have h₁ := data[offset + 1].toNat_lt
    have h₂ := data[offset + 2].toNat_lt
    have h₃ := data[offset + 3].toNat_lt
    rw [Bytes.word, window_eq, drop_eq_four_cons inside]
    simp only [List.take_succ_cons, List.take_zero, littleEndian, List.foldr_cons, List.foldr_nil]
    rw [UInt32.toNat_ofNat_of_lt' (by rw [UInt32.size]; omega)]
    omega

/-- A word lies wherever there are four bytes. -/
lemma hasWord_word {data : Bytes} {offset} (inside : offset + 4 ≤ data.size) :
    data.HasWord offset (data.word offset) :=
  hasWord_iff.2 ⟨inside, rfl⟩

/-- At most one word lies at an offset. -/
lemma HasWord.unique {data : Bytes} {offset a b} (h : data.HasWord offset a)
    (h' : data.HasWord offset b) : a = b :=
  (hasWord_iff.1 h).2.symm.trans (hasWord_iff.1 h').2

/-- Four bytes spell a word. -/
@[simp] lemma length_ofWord (word) : (ofWord word).length = 4 := by
  simp [ofWord]

/-- A word is read back from the bytes that spell it. -/
lemma littleEndian_ofWord (word) : UInt32.ofNat (littleEndian (ofWord word)) = word := by
  have small : word.toNat < 256 ^ 4 := word.toNat_lt
  rw [ofWord, littleEndian_toLittleEndian small, UInt32.ofNat_toNat]

/-- Overwriting puts the patch between what was before it and what was behind it. -/
lemma toList_overwrite {data : Bytes} {offset patch} (inside : offset + patch.length ≤ data.size) :
    (data.overwrite offset patch).toList =
      data.toList.take offset ++ patch ++ data.toList.drop (offset + patch.length) := by
  induction patch generalizing data offset with
  | nil => simp [overwrite]
  | cons byte patch ih =>
    rw [List.length_cons] at inside
    have start := length_take_toList (Nat.le_of_add_right_le inside)
    rw [overwrite, ih (by rw [Array.size_setIfInBounds]; omega), Array.toList_setIfInBounds,
      List.set_eq_take_append_cons_drop, if_pos (by rw [Array.length_toList]; omega)]
    have before : (data.toList.take offset ++ byte :: data.toList.drop (offset + 1)).take
        (offset + 1) = data.toList.take offset ++ [byte] := by
      rw [List.take_append, start]
      simp
    have behind : (data.toList.take offset ++ byte :: data.toList.drop (offset + 1)).drop
        (offset + 1 + patch.length) = data.toList.drop (offset + (patch.length + 1)) := by
      rw [List.drop_append, start, List.drop_eq_nil_of_le (by rw [start]; omega), List.nil_append,
        show offset + 1 + patch.length - offset = patch.length + 1 by omega, List.drop_succ_cons,
        List.drop_drop]
      congr 1
      omega
    rw [before, behind]
    simp

end Bytes

end DexTriage
