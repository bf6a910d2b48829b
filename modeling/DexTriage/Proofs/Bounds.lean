import Mathlib
import DexTriage.Proofs.Image
import DexTriage.Proofs.StringPool.Outcome
import DexTriage.Proofs.Uleb128.Words

/-!
# Errors about bounds are true

A read is refused for the end of the buffer exactly if its bytes are not all there
(`Bytes.ReadsExactly`, `Uleb128.read_eq_outOfRange_iff`). Four readers make such an error, each with
offsets and widths of its own: numbers, tails, tables and texts. `ImageError.Arises` lists where an
error can come from, and each of them keeps to `ImageError.IsTruthful`: the size that the error
names is that of the buffer, and the stretch that it names goes beyond it.
-/

namespace DexTriage

/-- Bytes spell a number below the power of 256 that their count is. -/
lemma littleEndian_lt (bytes : List UInt8) : littleEndian bytes < 256 ^ bytes.length := by
  have digits : ∀ digit ∈ bytes.map UInt8.toNat, digit < 256 := by
    intro digit mem
    obtain ⟨byte, -, rfl⟩ := List.mem_map.1 mem
    exact byte.toNat_lt
  have small := Nat.ofDigits_lt_base_pow_length (by decide) digits
  rwa [← littleEndian_eq_ofDigits, List.length_map] at small

namespace Bytes

variable {data : Bytes} {offset width : Nat}

/-- The `width` bytes from `offset` on are all there, and spell the number with the lowest byte
first. -/
def HasNumber (data : Bytes) (offset width number : Nat) : Prop :=
  offset + width ≤ data.size ∧
    number = ∑ i ∈ Finset.range width, (data.getD (offset + i) 0).toNat * 256 ^ i

/-- A byte of a window is the one in its place of the buffer. -/
lemma getD_window (data : Bytes) (offset) {width i : Nat} (before : i < width) :
    (data.window offset width).getD i 0 = data.getD (offset + i) 0 := by
  rw [window_eq, List.getD_eq_getElem?_getD, List.getElem?_take_of_lt before, List.getElem?_drop,
    Array.getElem?_toList, Array.getD_eq_getD_getElem?]

/-- A window within the buffer spells the digits from its offset on. -/
lemma littleEndian_window (inside : offset + width ≤ data.size) :
    littleEndian (data.window offset width) =
      ∑ i ∈ Finset.range width, (data.getD (offset + i) 0).toNat * 256 ^ i := by
  rw [littleEndian_eq_ofDigits, ofDigits_eq_sum, List.length_map, length_window inside]
  refine Finset.sum_congr rfl fun i listed => ?_
  rw [← getD_window data offset (Finset.mem_range.1 listed), ← List.getD_map _ _ UInt8.toNat]
  rfl

/-- A number is read exactly if its bytes are there and spell it. -/
lemma numberAt_eq_ok_iff {number} :
    data.numberAt offset width = .ok number ↔ data.HasNumber offset width number := by
  rw [numberAt, HasNumber]
  split
  · rename_i inside
    rw [littleEndian_window inside, Except.ok.injEq, eq_comm (a := number)]
    exact (and_iff_right inside).symm
  · rename_i outside
    exact iff_of_false (by simp) fun has => outside has.1

/-- A number is refused exactly if its bytes are not all there. -/
lemma numberAt_eq_error_iff {e} :
    data.numberAt offset width = .error e ↔
      data.size < offset + width ∧ e = .offsetOutOfRange offset width data.size := by
  rw [numberAt, guarded_eq_error_iff, not_le]

/-- A number that is read is below the power of 256 that its width is. -/
lemma HasNumber.lt {number} (has : data.HasNumber offset width number) : number < 256 ^ width := by
  obtain ⟨inside, rfl⟩ := has
  have small := littleEndian_lt (data.window offset width)
  rwa [littleEndian_window inside, length_window inside] at small

/-- A tail is there exactly up to the end of the buffer. -/
lemma exists_tailAt_iff : (∃ rest, data.tailAt offset = .ok rest) ↔ offset ≤ data.size := by
  rw [tailAt, exists_guarded_eq_ok_iff]

/-- A tail is refused exactly behind the end of the buffer. -/
lemma tailAt_eq_error_iff {e} :
    data.tailAt offset = .error e ↔
      data.size < offset ∧ e = .offsetOutOfRange offset 0 data.size := by
  rw [tailAt, guarded_eq_error_iff, not_le]

/-- The number at an offset is read from the tail there. -/
lemma numberInTail_eq (data : Bytes) (offset width : Nat) :
    data.numberInTail offset width = data.numberAt offset width := by
  by_cases inside : offset ≤ data.size
  · have tail : (data.extract offset data.size).toList = data.toList.drop offset := by
      rw [Array.toList_extract, List.extract_eq_take_drop, List.take_of_length_le]
      rw [List.length_drop, Array.length_toList]
    have room : (data.toList.drop offset).length = data.size - offset := by
      rw [List.length_drop, Array.length_toList]
    simp only [numberInTail, tailAt, if_pos inside, tail, StateT.run, FieldReader.bytes, room]
    by_cases fits : offset + width ≤ data.size
    · rw [numberAt, if_pos fits, if_pos (by omega), window_eq]
    · rw [numberAt, if_neg fits, if_neg (by omega)]
  · simp only [numberInTail, tailAt, if_neg inside]
    rw [numberAt, if_neg (by omega)]

/-- A reader of the numbers of a width, given as values that stand for them: there is a value
exactly where the bytes are, it stands for the number that they spell, and where it is refused, it
is for the bytes that are not all there. -/
structure ReadsExactly {β : Type} (data : Bytes) (width : Nat) (toNat : β → Nat)
    (read : Nat → Except ImageError β) : Prop where
  found : ∀ offset, (∃ value, read offset = .ok value) ↔ offset + width ≤ data.size
  value : ∀ offset value, read offset = .ok value ↔ data.HasNumber offset width (toNat value)
  refused : ∀ offset e, read offset = .error e ↔
    data.size < offset + width ∧ e = .offsetOutOfRange offset width data.size

/-- Numbers of a width are read exactly if there is one value for each of them. -/
lemma readsExactly_map {β : Type} {ofNat : Nat → β} {toNat : β → Nat}
    (toNat_ofNat : ∀ n < 256 ^ width, toNat (ofNat n) = n) (ofNat_toNat : ∀ b, ofNat (toNat b) = b) :
    ReadsExactly data width toNat fun offset => (data.numberAt offset width).map ofNat where
  found offset := by
    rw [numberAt, apply_ite (Except.map ofNat)]
    exact exists_guarded_eq_ok_iff
  value offset value := by
    rw [← numberAt_eq_ok_iff]
    cases read : data.numberAt offset width with
    | error e => exact iff_of_false (by simp [Except.map]) (by simp)
    | ok number =>
      have small := (numberAt_eq_ok_iff.1 read).lt
      rw [Except.map, Except.ok.injEq, Except.ok.injEq]
      constructor
      · rintro rfl
        exact (toNat_ofNat number small).symm
      · rintro rfl
        exact ofNat_toNat value
  refused offset e := by
    rw [map_eq_error_iff, numberAt_eq_error_iff]

/-- Bytes are read exactly. -/
lemma readsExactly_byteAt (data : Bytes) : ReadsExactly data 1 UInt8.toNat data.byteAt :=
  readsExactly_map (fun _ => UInt8.toNat_ofNat_of_lt') fun _ => UInt8.ofNat_toNat

/-- 16-bit numbers are read exactly. -/
lemma readsExactly_halfAt (data : Bytes) : ReadsExactly data 2 UInt16.toNat data.halfAt :=
  readsExactly_map (fun _ => UInt16.toNat_ofNat_of_lt') fun _ => UInt16.ofNat_toNat

/-- Words are read exactly. -/
lemma readsExactly_wordAt (data : Bytes) : ReadsExactly data 4 UInt32.toNat data.wordAt :=
  readsExactly_map (fun _ => UInt32.toNat_ofNat_of_lt') fun _ => UInt32.ofNat_toNat

end Bytes

namespace Uleb128

open Bytes

variable {data : Bytes}

/-- The `width` bytes from `offset` on are all there, and none of them ends a number. -/
def GoesOn (data : Bytes) (offset width : Nat) : Prop :=
  ∀ i < width, ∃ byte, data.byteAt (offset + i) = .ok byte ∧ 128 ≤ byte.toNat

/-- A number goes on for no bytes. -/
lemma goesOn_zero {offset} : GoesOn data offset 0 :=
  fun i less => absurd less (Nat.not_lt_zero i)

/-- A number goes on by one byte more than it does behind that byte. -/
lemma goesOn_succ_iff {offset width} :
    GoesOn data offset (width + 1) ↔
      (∃ byte, data.byteAt offset = .ok byte ∧ 128 ≤ byte.toNat) ∧
        GoesOn data (offset + 1) width := by
  constructor
  · intro on
    refine ⟨on 0 (Nat.succ_pos width), fun i listed => ?_⟩
    rw [Nat.add_right_comm]
    exact on (i + 1) (Nat.succ_lt_succ listed)
  · rintro ⟨first, on⟩ i listed
    cases i with
    | zero => exact first
    | succ i =>
      have later := on i (Nat.lt_of_succ_lt_succ listed)
      rwa [Nat.add_right_comm] at later

/-- Reading on runs into the end of the buffer exactly if the number does, within the room that is
left, and then it is refused for the first byte that is not there. -/
lemma readFrom_eq_outOfRange_iff {start room width value offset count size : Nat} :
    readFrom data start room width value = .error (.offsetOutOfRange offset count size) ↔
      ∃ more < room, GoesOn data (start + width) more ∧ data.size ≤ start + width + more ∧
        offset = start + width + more ∧ count = 1 ∧ size = data.size := by
  -- on the room: the next byte is missing, or ends the number, or leaves the question to the rest
  induction room generalizing width value with
  | zero =>
    constructor
    · intro refused
      cases refused
    · rintro ⟨more, none, -⟩
      cases none
  | succ room ih =>
    rw [readFrom]
    cases next : data.byteAt (start + width) with
    | error e =>
      obtain ⟨outside, rfl⟩ := ((readsExactly_byteAt data).refused _ _).1 next
      rw [error_bind, Except.error.injEq, ImageError.offsetOutOfRange.injEq]
      constructor
      · rintro ⟨rfl, rfl, rfl⟩
        exact ⟨0, Nat.succ_pos room, goesOn_zero, Nat.le_of_lt_succ outside, rfl, rfl, rfl⟩
      · rintro ⟨more, -, on, -, rfl, rfl, rfl⟩
        cases more with
        | zero => exact ⟨rfl, rfl, rfl⟩
        | succ more =>
          obtain ⟨⟨byte, found, -⟩, -⟩ := goesOn_succ_iff.1 on
          rw [next] at found
          cases found
    | ok byte =>
      have inside := inside_of_byteAt next
      rw [ok_bind]
      by_cases last : byte.toNat < 128
      · simp only [if_pos last]
        refine ⟨fun read => (by cases read), ?_⟩
        rintro ⟨more, -, on, outside, -⟩
        cases more with
        | zero => omega
        | succ more =>
          obtain ⟨⟨other, found, high⟩, -⟩ := goesOn_succ_iff.1 on
          rw [next] at found
          cases found
          omega
      · simp only [if_neg last]
        rw [ih]
        constructor
        · rintro ⟨more, room, on, outside, rfl, rfl, rfl⟩
          refine ⟨more + 1, Nat.succ_lt_succ room, ?_, by omega, by omega, rfl, rfl⟩
          exact goesOn_succ_iff.2 ⟨⟨byte, next, not_lt.1 last⟩, on⟩
        · rintro ⟨more, room, on, outside, rfl, rfl, rfl⟩
          cases more with
          | zero => omega
          | succ more =>
            obtain ⟨-, on⟩ := goesOn_succ_iff.1 on
            exact ⟨more, Nat.lt_of_succ_lt_succ room, on, by omega, by omega, rfl, rfl⟩

/-- A number is refused for the end of the buffer exactly if the buffer ends before a byte that ends
the number, and before a fifth byte; it is then the first byte that is not there. -/
lemma read_eq_outOfRange_iff {start offset count size : Nat} :
    read data start = .error (.offsetOutOfRange offset count size) ↔
      ∃ width < 5, GoesOn data start width ∧ data.size ≤ start + width ∧
        offset = start + width ∧ count = 1 ∧ size = data.size :=
  readFrom_eq_outOfRange_iff

/-- A number is refused for its bytes that are not there, or for going on for too long. -/
lemma readFrom_eq_error {start room width value e}
    (refused : readFrom data start room width value = .error e) :
    (∃ offset count size, e = .offsetOutOfRange offset count size) ∨
      e = .malformedVarint start := by
  induction room generalizing width value with
  | zero =>
    cases refused
    exact .inr rfl
  | succ room ih =>
    rw [readFrom] at refused
    obtain missing | ⟨byte, -, later⟩ := bind_eq_error_iff.1 refused
    · obtain ⟨-, rfl⟩ := ((readsExactly_byteAt data).refused _ _).1 missing
      exact .inl ⟨_, _, _, rfl⟩
    · by_cases last : byte.toNat < 128
      · simp only [if_pos last] at later
        cases later
      · simp only [if_neg last] at later
        exact ih later

end Uleb128

namespace ImageError

variable {data : Bytes}

/-- If the error says that a stretch goes beyond the buffer, then the buffer has the size that it
says and the stretch does. -/
def IsTruthful (size : Nat) : ImageError → Prop
  | offsetOutOfRange offset width size' => size' = size ∧ size < offset + width
  | _ => True

/-- The error is about the header as a whole. -/
def IsOfHeader : ImageError → Prop
  | invalidMagic _ | headerTruncated _ _ => True
  | _ => False

/-- The errors of a buffer, by what is read of it. -/
inductive Arises (data : Bytes) : ImageError → Prop where
  | byte {offset e} : data.byteAt offset = .error e → Arises data e
  | half {offset e} : data.halfAt offset = .error e → Arises data e
  | word {offset e} : data.wordAt offset = .error e → Arises data e
  | tail {offset e} : data.tailAt offset = .error e → Arises data e
  | number {offset e} : Uleb128.read data offset = .error e → Arises data e
  | header {e} : Header.parse data = .error e → Arises data e
  | image {limit e} : Image.parse data limit = .error e → Arises data e
  | omission {header limit omission} :
    omission ∈ (StringPool.read data header limit).omitted → Arises data omission.error

/-- An error of a reader of numbers is true. -/
lemma isTruthful_of_readsExactly {β : Type} {width offset : Nat} {toNat : β → Nat}
    {read : Nat → Except ImageError β} {e : ImageError} (exact : data.ReadsExactly width toNat read)
    (refused : read offset = .error e) : e.IsTruthful data.size ∧ ¬ e.IsOfHeader := by
  obtain ⟨outside, rfl⟩ := (exact.refused _ _).1 refused
  exact ⟨⟨rfl, outside⟩, id⟩

/-- An error of a variable-length number is true. -/
lemma isTruthful_of_uleb128 {offset e} (refused : Uleb128.read data offset = .error e) :
    e.IsTruthful data.size ∧ ¬ e.IsOfHeader := by
  obtain ⟨start, count, size, rfl⟩ | rfl := Uleb128.readFrom_eq_error refused
  · obtain ⟨width, -, -, outside, rfl, rfl, rfl⟩ := Uleb128.read_eq_outOfRange_iff.1 refused
    exact ⟨⟨rfl, Nat.lt_succ_of_le outside⟩, id⟩
  · exact ⟨trivial, id⟩

/-- An error of a text is true, and never about the header. -/
lemma isTruthful_of_textAt {limit offset e} (refused : textAt data limit offset = .error e) :
    e.IsTruthful data.size ∧ ¬ e.IsOfHeader := by
  rw [textAt_eq_iff_outcome] at refused
  cases refused with
  | unreadLength refused => exact isTruthful_of_uleb128 refused
  | tooLong _ _ => exact ⟨trivial, id⟩
  | outside _ _ outside => exact ⟨⟨rfl, outside⟩, id⟩
  | unreadText _ _ _ refused =>
    obtain ⟨place, fault, rfl, -⟩ := Mutf8.isPlaced_of_decodeOnto refused
    exact ⟨trivial, id⟩

/-- An omission of a pool is for a true error that is not about the header, whether or not the
header that places the pool fits the buffer. -/
lemma isTruthful_of_omission {header limit omission}
    (omitted : omission ∈ (StringPool.read data header limit).omitted) :
    omission.error.IsTruthful data.size ∧ ¬ omission.error.IsOfHeader := by
  obtain ⟨id, -, refused⟩ := List.mem_map.1
    (List.mem_of_getElem? (StringPool.mem_omitted_iff.1 omitted))
  rw [StringPool.entry, bind_eq_error_iff] at refused
  obtain refused | ⟨offset, -, refused⟩ := refused
  · exact isTruthful_of_readsExactly (Bytes.readsExactly_wordAt data) refused
  · exact isTruthful_of_textAt refused

/-- The error for which a header is refused is true. -/
lemma isTruthful_of_header {e} (refused : Header.parse data = .error e) :
    e.IsTruthful data.size := by
  have out := Header.outcome_parse data
  rw [refused] at out
  cases out with
  | misplaced _ _ _ _ misplaced =>
    rw [Header.Fits, not_or, not_le] at misplaced
    exact ⟨rfl, misplaced.2⟩
  | _ => trivial

/-- Every error of a buffer is true. -/
lemma Arises.isTruthful {e} (arises : Arises data e) : e.IsTruthful data.size := by
  cases arises with
  | byte refused => exact (isTruthful_of_readsExactly (Bytes.readsExactly_byteAt data) refused).1
  | half refused => exact (isTruthful_of_readsExactly (Bytes.readsExactly_halfAt data) refused).1
  | word refused => exact (isTruthful_of_readsExactly (Bytes.readsExactly_wordAt data) refused).1
  | tail refused =>
    obtain ⟨outside, rfl⟩ := Bytes.tailAt_eq_error_iff.1 refused
    exact ⟨rfl, outside⟩
  | number refused => exact (isTruthful_of_uleb128 refused).1
  | header refused => exact isTruthful_of_header refused
  | image refused => exact isTruthful_of_header (Image.parse_eq_error_iff.1 refused)
  | omission omitted => exact (isTruthful_of_omission omitted).1

end ImageError

namespace Bytes

/-- Numbers, tails and variable-length numbers are refused for the end of the buffer exactly if they
go beyond it, with no sum that could wrap: a number is what the first bytes of a tail spell, and
64 bits hold every offset at which a variable-length number goes on. Every error about bounds that
comes of a buffer names its size and a stretch that goes beyond it; and no text is omitted for the
header. -/
theorem bounds_exact (data : Bytes) :
    ReadsExactly data 1 UInt8.toNat data.byteAt ∧
    ReadsExactly data 2 UInt16.toNat data.halfAt ∧
    ReadsExactly data 4 UInt32.toNat data.wordAt ∧
    (∀ offset width, data.numberInTail offset width = data.numberAt offset width) ∧
    (∀ offset, ((∃ rest, data.tailAt offset = .ok rest) ↔ offset ≤ data.size) ∧
      ∀ e, data.tailAt offset = .error e ↔
        data.size < offset ∧ e = .offsetOutOfRange offset 0 data.size) ∧
    (∀ start, (∃ offset count size,
        Uleb128.read data start = .error (.offsetOutOfRange offset count size)) ↔
      ∃ width < 5, Uleb128.GoesOn data start width ∧ data.size ≤ start + width) ∧
    (data.size < 2 ^ 64 → ∀ offset : UInt64,
      Uleb128.readWords data offset = Uleb128.read data offset.toNat) ∧
    (∀ offset width size, ImageError.Arises data (.offsetOutOfRange offset width size) →
      size = data.size ∧ data.size < offset + width) ∧
    ∀ header limit, ∀ omission ∈ (StringPool.read data header limit).omitted,
      (∀ magic, omission.error ≠ .invalidMagic magic) ∧
      ∀ got expected, omission.error ≠ .headerTruncated got expected := by
  refine ⟨readsExactly_byteAt data, readsExactly_halfAt data, readsExactly_wordAt data,
    numberInTail_eq data, fun offset => ⟨exists_tailAt_iff, fun _ => tailAt_eq_error_iff⟩, ?_,
    Uleb128.readWords_eq, fun offset width size arises => arises.isTruthful, ?_⟩
  · intro start
    constructor
    · rintro ⟨offset, count, size, refused⟩
      obtain ⟨width, narrow, on, outside, -⟩ := Uleb128.read_eq_outOfRange_iff.1 refused
      exact ⟨width, narrow, on, outside⟩
    · rintro ⟨width, narrow, on, outside⟩
      exact ⟨_, _, _, Uleb128.read_eq_outOfRange_iff.2 ⟨width, narrow, on, outside, rfl, rfl, rfl⟩⟩
  · intro header limit omission omitted
    obtain ⟨-, other⟩ := ImageError.isTruthful_of_omission omitted
    refine ⟨fun magic eq => other ?_, fun got expected eq => other ?_⟩
    · rw [eq]
      trivial
    · rw [eq]
      trivial

/-- A text that is declared to be longer than the image is omitted for a stretch that goes beyond
it, and the last offset of 64 bits is refused as it stands. -/
theorem bounds_exact_on_short_image :
    (118 = StringPool.shortImage.size ∧ StringPool.shortImage.size < 0x6D + 116) ∧
    Uleb128.readWords StringPool.shortImage (-1) =
      .error (.offsetOutOfRange (2 ^ 64 - 1) 1 118) := by
  obtain ⟨-, -, -, -, -, -, words, truthful, -⟩ := bounds_exact StringPool.shortImage
  have size : StringPool.shortImage.size = 118 := by decide +kernel
  have omitted : ⟨1, .offsetOutOfRange 0x6D 116 118⟩ ∈
      (StringPool.read StringPool.shortImage StringPool.shortHeader 200).omitted := by
    decide +kernel
  refine ⟨truthful _ _ _ (.omission omitted), ?_⟩
  rw [words (by rw [size]; decide), Uleb128.read_eq_outOfRange_iff]
  exact ⟨0, by decide, nofun, by rw [size]; decide, rfl, rfl, size.symm⟩

end Bytes

end DexTriage
