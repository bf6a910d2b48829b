import Mathlib
import DexTriage.Proofs.Digest.Adler32
import DexTriage.Proofs.Header.Outcome
import DexTriage.Proofs.Seal

/-!
# Local damage shows

The checksum of an image covers every byte behind the checksum field. A change of two neighbouring
bytes there changes the checksum that the image should carry (`eq_of_checksumOf_eq`), and a change
of the field changes the one that it does carry (`eq_of_hasWord`), so that one of the two images
declares another checksum than it has (`Header.checksumMismatch_of_damage`).
-/

namespace DexTriage

/-- Two buffers hold the same bytes but for the `count` bytes from `start` on. -/
def Bytes.AgreeOutside (start count : Nat) (data data' : Bytes) : Prop :=
  ∀ position, position < start ∨ start + count ≤ position → data[position]? = data'[position]?

section Agreement

variable {data data' : Bytes} {start count : Nat}

/-- What is before the bytes that differ is the same. -/
lemma Bytes.AgreeOutside.take_eq (agree : AgreeOutside start count data data') :
    data.toList.take start = data'.toList.take start := by
  apply List.ext_getElem?
  intro position
  by_cases before : position < start
  · rw [List.getElem?_take_of_lt before, List.getElem?_take_of_lt before, Array.getElem?_toList,
      Array.getElem?_toList, agree position (.inl before)]
  · rw [List.getElem?_take_eq_none (not_lt.1 before), List.getElem?_take_eq_none (not_lt.1 before)]

/-- What is behind the bytes that differ is the same. -/
lemma Bytes.AgreeOutside.drop_eq (agree : AgreeOutside start count data data') {offset : Nat}
    (behind : start + count ≤ offset) : data.toList.drop offset = data'.toList.drop offset := by
  apply List.ext_getElem?
  intro position
  rw [List.getElem?_drop, List.getElem?_drop, Array.getElem?_toList, Array.getElem?_toList,
    agree (offset + position) (.inr (by omega))]

/-- A word outside the bytes that differ is the same. -/
lemma Bytes.AgreeOutside.hasWord (agree : AgreeOutside start count data data') {offset word}
    (outside : offset + 4 ≤ start ∨ start + count ≤ offset) (has : data.HasWord offset word) :
    data'.HasWord offset word := by
  obtain ⟨a, b, c, d, at₀, at₁, at₂, at₃, value⟩ := has
  rw [agree _ (by omega)] at at₀ at₁ at₂ at₃
  exact ⟨a, b, c, d, at₀, at₁, at₂, at₃, value⟩

/-- Buffers that agree outside a word, and in the word, are the same. -/
lemma eq_of_hasWord {offset word} (agree : Bytes.AgreeOutside offset 4 data data')
    (has : data.HasWord offset word) (has' : data'.HasWord offset word) : data = data' := by
  obtain ⟨a, b, c, d, at₀, at₁, at₂, at₃, value⟩ := has
  obtain ⟨a', b', c', d', at₀', at₁', at₂', at₃', value'⟩ := has'
  -- the bytes are the digits of the word to the base 256
  have digits : a.toNat = a'.toNat ∧ b.toNat = b'.toNat ∧ c.toNat = c'.toNat ∧
      d.toNat = d'.toNat := by
    have := a.toNat_lt; have := b.toNat_lt; have := c.toNat_lt; have := d.toNat_lt
    have := a'.toNat_lt; have := b'.toNat_lt; have := c'.toNat_lt; have := d'.toNat_lt
    omega
  simp only [UInt8.toNat_inj] at digits
  obtain ⟨rfl, rfl, rfl, rfl⟩ := digits
  apply Array.ext_getElem?
  intro position
  by_cases outside : position < offset ∨ offset + 4 ≤ position
  · exact agree position outside
  · obtain rfl | rfl | rfl | rfl : position = offset ∨ position = offset + 1 ∨
        position = offset + 2 ∨ position = offset + 3 := by omega
    · rw [at₀, at₀']
    · rw [at₁, at₁']
    · rw [at₂, at₂']
    · rw [at₃, at₃']

/-- What is behind the checksum field is what is there before, in and behind two of its bytes. -/
lemma drop_twelve_eq (data : Bytes) (inside : 12 ≤ start) :
    data.toList.drop 12 = (data.toList.drop 12).take (start - 12) ++
      ((data.toList.drop start).take 2 ++ data.toList.drop (start + 2)) := by
  obtain ⟨skipped, rfl⟩ := Nat.exists_eq_add_of_le inside
  rw [← List.drop_drop, ← List.drop_drop, ← List.drop_drop, List.take_append_drop,
    Nat.add_sub_cancel_left, List.take_append_drop]

/-- Images that differ within two neighbouring bytes behind the checksum field have different
checksums. -/
lemma eq_of_checksumOf_eq (agree : Bytes.AgreeOutside start 2 data data') (inside : 12 ≤ start)
    (size : data'.size = data.size) (same : checksumOf data = checksumOf data') : data = data' := by
  have before : (data.toList.drop 12).take (start - 12) =
      (data'.toList.drop 12).take (start - 12) := by
    rw [List.take_drop, List.take_drop, Nat.add_sub_cancel' inside, agree.take_eq]
  have behind := agree.drop_eq (Nat.le_refl (start + 2))
  have length : ((data'.toList.drop start).take 2).length =
      ((data.toList.drop start).take 2).length := by
    simp [size]
  rw [checksumOf_eq, checksumOf_eq, drop_twelve_eq data inside, drop_twelve_eq data' inside, before,
    behind] at same
  have window := Digest.Adler32.eq_of_checksum_eq (List.length_take_le _ _) length same
  apply Array.toList_inj.1
  rw [← List.take_append_drop start data.toList, ← List.take_append_drop start data'.toList,
    agree.take_eq, ← List.take_append_drop 2 (data.toList.drop start),
    ← List.take_append_drop 2 (data'.toList.drop start), List.drop_drop, List.drop_drop, window,
    behind]

end Agreement

namespace Header

/-- A header declares another checksum than the image has exactly if the two are different. -/
lemma checksumMismatch_mem_iff {header : Header} {image : Bytes} {declared computed} :
    .checksumMismatch declared computed ∈ header.inconsistencies image ↔
      checksumOf image ≠ header.checksum ∧ declared = header.checksum ∧
        computed = checksumOf image := by
  rw [inconsistencies]
  constructor
  · intro mem
    simp only [List.mem_append] at mem
    obtain ((mem | mem) | mem) | mem := mem
    · split at mem <;> simp at mem
    · split at mem
      · cases mem
      · rename_i other
        rw [List.mem_singleton, Inconsistency.checksumMismatch.injEq] at mem
        exact ⟨other, mem⟩
    · split at mem <;> simp at mem
    · split at mem
      · cases mem
      · split at mem <;> simp at mem
  · rintro ⟨other, rfl, rfl⟩
    simp [if_neg other]

/-- If an image carries the checksum that it should, and is damaged in up to two neighbouring bytes
behind the checksum field, or in the field, so that it can still be read, then the damaged image
declares a checksum, that of its field, that is not the one it has. -/
theorem checksumMismatch_of_damage {image damaged : Bytes} {header header' : Header}
    (accepted : parse image = .ok header) (accepted' : parse damaged = .ok header')
    (size : damaged.size = image.size) (changed : damaged ≠ image)
    (nearby : (∃ start, 12 ≤ start ∧ Bytes.AgreeOutside start 2 image damaged) ∨
      Bytes.AgreeOutside 8 4 image damaged)
    (intact : ∀ declared computed,
      .checksumMismatch declared computed ∉ header.inconsistencies image) :
    damaged.HasWord 8 header'.checksum ∧
      checksumOf damaged = Digest.Adler32.checksum (damaged.toList.drop 12) ∧
      checksumOf damaged ≠ header'.checksum ∧
      ∀ declared computed, .checksumMismatch declared computed ∈ header'.inconsistencies damaged ↔
        declared = header'.checksum ∧ computed = checksumOf damaged := by
  obtain ⟨laid, -, -⟩ := laidOut_of_parse accepted
  obtain ⟨laid', -, -⟩ := laidOut_of_parse accepted'
  have field : image.HasWord 8 header.checksum := laid.words .checksum
  have field' : damaged.HasWord 8 header'.checksum := laid'.words .checksum
  have declares : checksumOf image = header.checksum := by
    by_contra other
    exact intact _ _ (checksumMismatch_mem_iff.2 ⟨other, rfl, rfl⟩)
  have mismatch : checksumOf damaged ≠ header'.checksum := by
    intro declares'
    obtain ⟨start, inside, agree⟩ | agree := nearby
    · -- the field is the same, and so would be the checksums
      have same : header.checksum = header'.checksum := (agree.hasWord (.inl inside) field).unique field'
      refine changed (eq_of_checksumOf_eq agree inside size ?_).symm
      rw [declares, declares', same]
    · -- the checksums are the same, and so would be the field
      have same : checksumOf image = checksumOf damaged := by
        rw [checksumOf_eq, checksumOf_eq, agree.drop_eq (Nat.le_refl 12)]
      rw [← declares, same, declares'] at field
      exact changed (eq_of_hasWord agree field field').symm
  refine ⟨field', checksumOf_eq damaged, mismatch, fun declared computed => ?_⟩
  rw [checksumMismatch_mem_iff, and_iff_right mismatch]

/-- An image that is no more than a header, with two bytes of its link size as given. The checksum
is that of the image with the bytes `2` and `1`. -/
def bareImage (low high : UInt8) : Bytes :=
  (magicOf 35 ++ [0x74, 0x00, 0x6F, 0x22] ++ List.replicate 24 0 ++ [0x70, 0, 0, 0, 0, 0, 0, 0]
    ++ [low, high] ++ List.replicate 66 0).toArray

/-- The header of that image. -/
def bareHeader (linkSize : UInt32) : Header where
  version := .v35
  checksum := 0x226F0074
  signature := List.replicate 20 0
  fileSize := 0
  headerSize := 0x70
  endianTag := 0
  linkSize := linkSize
  linkOffset := 0
  mapOffset := 0
  stringIds := ⟨0, 0⟩
  typeIds := ⟨0, 0⟩
  protoIds := ⟨0, 0⟩
  fieldIds := ⟨0, 0⟩
  methodIds := ⟨0, 0⟩
  classDefs := ⟨0, 0⟩
  data := ⟨0, 0⟩

/-- Two neighbouring bytes that change places leave the first sum as it is, but not the checksum. -/
theorem checksumMismatch_of_swapped_bytes :
    parse (bareImage 2 1) = .ok (bareHeader 0x0102) ∧
    parse (bareImage 1 2) = .ok (bareHeader 0x0201) ∧
    (∃ start, 12 ≤ start ∧ Bytes.AgreeOutside start 2 (bareImage 2 1) (bareImage 1 2)) ∧
    (∀ declared computed, .checksumMismatch declared computed ∉
      (bareHeader 0x0102).inconsistencies (bareImage 2 1)) ∧
    .checksumMismatch 0x226F0074 0x226E0074 ∈
      (bareHeader 0x0201).inconsistencies (bareImage 1 2) := by
  have accepted : parse (bareImage 2 1) = .ok (bareHeader 0x0102) := by decide +kernel
  have accepted' : parse (bareImage 1 2) = .ok (bareHeader 0x0201) := by decide +kernel
  have agree : Bytes.AgreeOutside 44 2 (bareImage 2 1) (bareImage 1 2) := by
    have inside : ∀ position < 112, position < 44 ∨ 46 ≤ position →
        (bareImage 2 1)[position]? = (bareImage 1 2)[position]? := by
      decide +kernel
    intro position outside
    by_cases small : position < 112
    · exact inside position small outside
    · rw [Array.getElem?_eq_none (not_lt.1 small), Array.getElem?_eq_none (not_lt.1 small)]
  have intact : ∀ declared computed, .checksumMismatch declared computed ∉
      (bareHeader 0x0102).inconsistencies (bareImage 2 1) := by
    intro declared computed mem
    have right : checksumOf (bareImage 2 1) = 0x226F0074 := by decide +kernel
    exact (checksumMismatch_mem_iff.1 mem).1 right
  have damage : ∃ start, 12 ≤ start ∧ Bytes.AgreeOutside start 2 (bareImage 2 1) (bareImage 1 2) :=
    ⟨44, by decide, agree⟩
  obtain ⟨-, -, -, mismatch⟩ := checksumMismatch_of_damage accepted accepted' rfl
    (by decide +kernel) (.inl damage) intact
  have computed : checksumOf (bareImage 1 2) = 0x226E0074 := by decide +kernel
  exact ⟨accepted, accepted', damage, intact, (mismatch _ _).2 ⟨rfl, computed.symm⟩⟩

end Header

end DexTriage
