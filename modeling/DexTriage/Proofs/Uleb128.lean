import Mathlib
import DexTriage.Proofs.Uleb128.Spelling

/-!
# Variable-length numbers are read back

The bytes that are written for a number spell it (`isSpelling_encodeNat`, `number_encodeNat`), and
there are at most five of them for a word, so that it is read back wherever they lie in a buffer and
whatever is behind them (`read_encode`). A number that is read takes one to five bytes, all of them
in the buffer (`width_of_read`).
-/

namespace DexTriage.Uleb128

/-- The byte of the last digit has no high bit. -/
lemma toNat_ofNat_last {n : Nat} (small : n < 128) : (UInt8.ofNat n).toNat = n :=
  UInt8.toNat_ofNat_of_lt' (by rw [UInt8.size]; omega)

/-- The byte of another digit has the high bit in front of it. -/
lemma toNat_ofNat_more (n : Nat) : (UInt8.ofNat (n % 128 + 128)).toNat = n % 128 + 128 :=
  UInt8.toNat_ofNat_of_lt' (by rw [UInt8.size]; omega)

/-- What is written for a number is a spelling. -/
lemma isSpelling_encodeNat (n : Nat) : IsSpelling (encodeNat n) := by
  fun_induction encodeNat n with
  | case1 n small =>
    apply IsSpelling.last
    rwa [toNat_ofNat_last small]
  | case2 n large ih =>
    refine .more ?_ ih
    rw [toNat_ofNat_more]
    exact Nat.le_add_left 128 _

/-- What is written for a number spells it. -/
@[simp] lemma number_encodeNat (n : Nat) : number (encodeNat n) = n := by
  fun_induction encodeNat n with
  | case1 n small =>
    rw [number_cons, number_nil, toNat_ofNat_last small, Nat.mod_eq_of_lt small]
    rfl
  | case2 n large ih =>
    rw [number_cons, ih, toNat_ofNat_more, Nat.add_mod_right, Nat.mod_mod, Nat.mod_add_div]

/-- As many bytes are written for a number as it has digits to the base 128, and one for zero. -/
lemma length_encodeNat_le_iff {n width : Nat} :
    (encodeNat n).length ≤ width + 1 ↔ n < 128 ^ (width + 1) := by
  constructor
  · intro short
    calc n = number (encodeNat n) := (number_encodeNat n).symm
      _ < 128 ^ (encodeNat n).length := number_lt _
      _ ≤ 128 ^ (width + 1) := Nat.pow_le_pow_right (by decide) short
  · intro small
    induction width generalizing n with
    | zero => rw [encodeNat, if_pos (show n < 128 from small), List.length_singleton]
    | succ width ih =>
      rw [encodeNat]
      split
      · exact Nat.le_add_left 1 _
      · rw [List.length_cons, Nat.add_le_add_iff_right]
        exact ih (Nat.div_lt_of_lt_mul (by rwa [← Nat.pow_succ']))

/-- Five bytes are enough for a word. -/
lemma length_encode_le (value : UInt32) : (encode value).length ≤ 5 := by
  have small := value.toNat_lt
  exact length_encodeNat_le_iff.2 (by omega)

/-- Every 32-bit number is read back from the bytes that spell it, whatever is behind them. -/
lemma read_encode {data : Bytes} {offset value rest}
    (behind : data.toList.drop offset = encode value ++ rest) :
    read data offset = .ok (value, (encode value).length) := by
  have follow : readFrom data offset maxWidth 0 0 = _ :=
    readFrom_spelling (isSpelling_encodeNat value.toNat) (length_encode_le value) behind
  simpa [read, encode] using follow

/-- A variable-length number takes one to five bytes, all of which lie in the buffer. -/
lemma width_of_read {data : Bytes} {offset number width}
    (result : read data offset = .ok (number, width)) :
    1 ≤ width ∧ width ≤ 5 ∧ offset + width ≤ data.size := by
  obtain ⟨narrow, inside, spelling, -⟩ := read_eq_ok_iff.1 result
  have some_byte := spelling.length_pos
  rw [Bytes.window_eq, List.length_take] at some_byte
  exact ⟨some_byte.trans (Nat.min_le_left _ _), narrow, inside⟩

end DexTriage.Uleb128
