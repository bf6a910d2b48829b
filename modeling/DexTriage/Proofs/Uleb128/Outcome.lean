import Mathlib
import DexTriage.Proofs.Bounds

/-!
# What comes of reading a variable-length number

A number is read exactly where its bytes are there, up to the first without a high bit, and it is
the sum of their digits modulo `2 ^ 32` (`SpelledAt`). It is refused as endless exactly where five
bytes with a high bit are (`EndlessAt`), and everywhere else for the first byte that is not there.
`readWords_eq_iff` shows this of reading in words, for every offset of 64 bits.
-/

namespace DexTriage.Uleb128

variable {data : Bytes} {offset width : Nat}

/-- The bytes from `offset` on spell the value in `width` bytes: all of these but the last have
their high bit set, and the value is the sum of their digits to the base 128, but for bits beyond
the 32 of a word. -/
structure SpelledAt (data : Bytes) (offset : Nat) (value : UInt32) (width : Nat) : Prop where
  width_pos : 1 ≤ width
  width_le : width ≤ 5
  inside : offset + width ≤ data.size
  goesOn : ∀ i, i + 1 < width → 128 ≤ (data.getD (offset + i) 0).toNat
  ends : (data.getD (offset + (width - 1)) 0).toNat < 128
  value_eq : value.toNat =
    (∑ i ∈ Finset.range width, (data.getD (offset + i) 0).toNat % 128 * 2 ^ (7 * i)) % 2 ^ 32

/-- There are five bytes from `offset` on, and all of them have their high bit set. -/
def EndlessAt (data : Bytes) (offset : Nat) : Prop :=
  offset + 5 ≤ data.size ∧ ∀ i < 5, 128 ≤ (data.getD (offset + i) 0).toNat

/-- The digits of a window within the buffer, each in its place. -/
lemma number_window (inside : offset + width ≤ data.size) :
    number (data.window offset width) =
      ∑ i ∈ Finset.range width, (data.getD (offset + i) 0).toNat % 128 * 2 ^ (7 * i) := by
  rw [number, ofDigits_eq_sum, List.length_map, Bytes.length_window inside]
  refine Finset.sum_congr rfl fun i listed => ?_
  rw [← Bytes.getD_window data offset (Finset.mem_range.1 listed), Nat.pow_mul,
    ← List.getD_map _ _ fun byte : UInt8 => byte.toNat % 128]
  rfl

/-- A window of one byte more has the byte behind it at its end. -/
lemma window_succ (inside : offset + width < data.size) :
    data.window offset (width + 1) = data.window offset width ++ [data.getD (offset + width) 0] := by
  have last : (data.toList.drop offset)[width]? = some (data.getD (offset + width) 0) := by
    rw [List.getElem?_drop, Array.getElem?_toList, Array.getD_eq_getD_getElem?,
      Array.getElem?_eq_getElem inside, Option.getD_some]
  rw [Bytes.window_eq, Bytes.window_eq, List.take_add_one, last, Option.toList_some]

/-- The bytes of a window are those in its places of the buffer. -/
lemma forall_mem_window_iff {p : UInt8 → Prop} (inside : offset + width ≤ data.size) :
    (∀ byte ∈ data.window offset width, p byte) ↔ ∀ i < width, p (data.getD (offset + i) 0) := by
  have length := Bytes.length_window inside
  rw [List.forall_mem_iff_forall_getElem]
  constructor
  · intro all i listed
    rw [← Bytes.getD_window data offset listed, List.getD_eq_getElem _ _ (by omega)]
    exact all i (by omega)
  · intro all i listed
    rw [← List.getD_eq_getElem _ 0, Bytes.getD_window _ _ (by omega)]
    exact all i (by omega)

/-- A number is read exactly where it is spelled. -/
lemma read_eq_ok_iff_spelledAt {value} :
    read data offset = .ok (value, width) ↔ SpelledAt data offset value width := by
  -- by the last byte and those before it
  have places {before} (inside : offset + (before + 1) ≤ data.size) :
      IsSpelling (data.window offset (before + 1)) ↔
        (∀ i < before, 128 ≤ (data.getD (offset + i) 0).toNat) ∧
          (data.getD (offset + before) 0).toNat < 128 := by
    rw [window_succ inside, isSpelling_concat_iff, forall_mem_window_iff (by omega)]
  constructor
  · intro found
    obtain ⟨some_byte, narrow, inside⟩ := width_of_read found
    obtain ⟨-, -, spelling, rfl⟩ := read_eq_ok_iff.1 found
    obtain ⟨before, rfl⟩ := Nat.exists_eq_add_of_le' some_byte
    obtain ⟨high, low⟩ := (places inside).1 spelling
    refine ⟨some_byte, narrow, inside, fun i listed => high i (by omega), low, ?_⟩
    rw [UInt32.toNat_ofNat', number_window inside]
  · rintro ⟨some_byte, narrow, inside, high, low, value_eq⟩
    obtain ⟨before, rfl⟩ := Nat.exists_eq_add_of_le' some_byte
    refine read_eq_ok_iff.2 ⟨narrow, inside, (places inside).2 ⟨fun i listed => high i ?_, low⟩, ?_⟩
    · exact Nat.succ_lt_succ listed
    · apply UInt32.toNat_inj.1
      rw [value_eq, UInt32.toNat_ofNat', number_window inside]

/-- Reading on is refused as endless exactly if the number goes on through all the room that is
left. -/
lemma readFrom_eq_malformed_iff {start room width value e : Nat} :
    readFrom data start room width value = .error (.malformedVarint e) ↔
      GoesOn data (start + width) room ∧ e = start := by
  induction room generalizing width value with
  | zero =>
    rw [readFrom, Except.error.injEq, ImageError.malformedVarint.injEq, eq_comm]
    exact (and_iff_right goesOn_zero).symm
  | succ room ih =>
    rw [readFrom, goesOn_succ_iff]
    cases next : data.byteAt (start + width) with
    | error e' =>
      obtain ⟨-, rfl⟩ := ((Bytes.readsExactly_byteAt data).refused _ _).1 next
      rw [error_bind]
      simp
    | ok byte =>
      rw [ok_bind]
      by_cases low : byte.toNat < 128
      · simp only [if_pos low]
        refine ⟨fun read => (by cases read), ?_⟩
        rintro ⟨⟨⟨_, found, high⟩, -⟩, -⟩
        cases found
        omega
      · simp only [if_neg low]
        rw [ih, Nat.add_assoc]
        exact and_congr_left' (and_iff_right ⟨byte, rfl, not_lt.1 low⟩).symm

/-- A byte is there, and is the one at its offset. -/
lemma byteAt_eq_ok_iff {byte} :
    data.byteAt offset = .ok byte ↔ offset < data.size ∧ data.getD offset 0 = byte := by
  rw [(Bytes.readsExactly_byteAt data).value, Bytes.HasNumber, Finset.sum_range_one,
    Nat.pow_zero, Nat.mul_one, Nat.add_zero, UInt8.toNat_inj, eq_comm (a := byte)]
  rfl

/-- A number goes on through bytes that are there and have their high bit set. -/
lemma goesOn_iff :
    GoesOn data offset width ↔
      ∀ i < width, offset + i < data.size ∧ 128 ≤ (data.getD (offset + i) 0).toNat := by
  refine forall₂_congr fun i _ => ?_
  simp only [byteAt_eq_ok_iff]
  constructor
  · rintro ⟨byte, ⟨inside, rfl⟩, high⟩
    exact ⟨inside, high⟩
  · rintro ⟨inside, high⟩
    exact ⟨_, ⟨inside, rfl⟩, high⟩

/-- A number is refused as endless exactly where five bytes go on. -/
lemma read_eq_malformed_iff {start : Nat} :
    read data offset = .error (.malformedVarint start) ↔ EndlessAt data offset ∧ start = offset := by
  have five : GoesOn data (offset + 0) 5 ↔ EndlessAt data offset := by
    rw [goesOn_iff, EndlessAt]
    constructor
    · intro on
      exact ⟨(on 4 (by decide)).1, fun i listed => (on i listed).2⟩
    · rintro ⟨inside, high⟩ i listed
      exact ⟨by omega, high i listed⟩
  rw [read, readFrom_eq_malformed_iff, maxWidth, five]

/-- Where no number is spelled and none is endless, the buffer ends. -/
lemma read_eq_of_ended (unspelled : ∀ value width, ¬ SpelledAt data offset value width)
    (ending : ¬ EndlessAt data offset) :
    read data offset = .error (.offsetOutOfRange (max offset data.size) 1 data.size) := by
  cases result : read data offset with
  | ok found => exact absurd (read_eq_ok_iff_spelledAt.1 result) (unspelled _ _)
  | error e =>
    obtain ⟨at_, count, size, rfl⟩ | rfl := readFrom_eq_error result
    · obtain ⟨width, -, on, outside, rfl, rfl, rfl⟩ := read_eq_outOfRange_iff.1 result
      -- every byte before the one that is not there is in the buffer
      have last : width = 0 ∨ offset + width ≤ data.size := by
        cases width with
        | zero => exact .inl rfl
        | succ width => exact .inr (goesOn_iff.1 on width (Nat.lt_succ_self width)).1
      have first_missing : max offset data.size = offset + width := by omega
      rw [first_missing]
    · exact absurd (read_eq_malformed_iff.1 result).1 ending

/-- A number is read at an offset of 64 bits exactly if it is spelled there, it is refused as endless
exactly if five bytes with their high bit set are there, and otherwise it is refused for the first
byte that is not there. No offset leaves its 64 bits and no word is shifted by its width. -/
theorem readWords_eq_iff (data : Bytes) (small : data.size < 2 ^ 64) (offset : UInt64) :
    (∀ value width, readWords data offset = .ok (value, width) ↔
      SpelledAt data offset.toNat value width) ∧
    (readWords data offset = .error (.malformedVarint offset.toNat) ↔
      EndlessAt data offset.toNat) ∧
    ((∀ value width, ¬ SpelledAt data offset.toNat value width) → ¬ EndlessAt data offset.toNat →
      readWords data offset =
        .error (.offsetOutOfRange (max offset.toNat data.size) 1 data.size)) ∧
    readWords data offset = read data offset.toNat ∧
    readStrict? data offset = some (readWords data offset) := by
  have same := readWords_eq small offset
  refine ⟨fun value width => ?_, ?_, fun unspelled ending => ?_, same, readStrict?_eq small offset⟩
  · rw [same, read_eq_ok_iff_spelledAt]
  · rw [same, read_eq_malformed_iff, and_iff_left rfl]
  · rw [same, read_eq_of_ended unspelled ending]

/-- Bits of the fifth byte that do not fit into a word are lost, and the greatest offset is refused
as it stands. -/
theorem readWords_of_surplus_bits :
    let data : Bytes := #[0x80, 0xFF, 0xFF, 0xFF, 0xFF, 0x7F]
    data.size < 2 ^ 64 ∧
    readWords data 1 = .ok (0xFFFFFFFF, 5) ∧
    readWords data 0 = .error (.malformedVarint 0) ∧
    readWords data 0xFFFFFFFFFFFFFFFF = .error (.offsetOutOfRange 0xFFFFFFFFFFFFFFFF 1 6) := by
  intro data
  have small : data.size < 2 ^ 64 := by decide
  have greatest : (0xFFFFFFFFFFFFFFFF : UInt64).toNat + 1 = 2 ^ 64 := by decide
  obtain ⟨spelled, -, -, -⟩ := readWords_eq_iff data small 1
  obtain ⟨-, endless, -⟩ := readWords_eq_iff data small 0
  obtain ⟨-, -, ended, -⟩ := readWords_eq_iff data small 0xFFFFFFFFFFFFFFFF
  refine ⟨small, (spelled _ _).2 ?_, endless.2 ⟨by decide, by decide⟩, ended ?_ ?_⟩
  · have on : ∀ i < 4, 128 ≤ (data.getD (1 + i) 0).toNat := by decide
    exact {
      width_pos := by decide
      width_le := by decide
      inside := by decide
      goesOn := fun i listed => on i (Nat.lt_of_succ_lt_succ listed)
      ends := by decide
      value_eq := by decide }
  · intro value width spelled
    have width_pos := spelled.width_pos
    have inside := spelled.inside
    omega
  · rintro ⟨inside, -⟩
    omega

end DexTriage.Uleb128
