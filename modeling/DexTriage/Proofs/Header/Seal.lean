import Mathlib
import DexTriage.Proofs.Corruption
import DexTriage.Proofs.Draft

/-!
# Sealed images are read as before

Sealing an image replaces bytes from 8 to 36 and no others (`agreeOutside_sealed`). What it stores
there is the size of the image, and the signature and the checksum that the sealed image should
carry (`isSealed_sealed`), so that sealing it again has nothing to change (`IsSealed.sealed_eq`).

What comes of an image does not depend on these bytes: every `Header.Outcome` is one of the sealed
image too (`Header.Outcome.sealed`), with the stored values in the header where there is one.
-/

namespace DexTriage

namespace Bytes

variable {data data' data'' : Bytes} {start count start' count' : Nat}

/-- Buffers that agree outside a stretch agree outside one around it. -/
lemma AgreeOutside.around (agree : AgreeOutside start count data data') (first : start' ≤ start)
    (last : start + count ≤ start' + count') : AgreeOutside start' count' data data' :=
  fun position outside => agree position (by omega)

/-- Agreement outside a stretch is transitive. -/
lemma AgreeOutside.trans (agree : AgreeOutside start count data data')
    (agree' : AgreeOutside start count data' data'') : AgreeOutside start count data data'' :=
  fun position outside => (agree position outside).trans (agree' position outside)

/-- Overwriting leaves the bytes outside the patch as they are. -/
lemma agreeOutside_overwrite (data : Bytes) (offset : Nat) (patch : List UInt8) :
    AgreeOutside offset patch.length data (data.overwrite offset patch) := by
  induction patch generalizing data offset with
  | nil => exact fun _ _ => rfl
  | cons byte patch ih =>
    rw [List.length_cons, overwrite]
    have first : AgreeOutside offset (patch.length + 1) data (data.setIfInBounds offset byte) := by
      intro position outside
      rw [Array.getElem?_setIfInBounds_ne (by omega)]
    exact first.trans ((ih _ _).around (by omega) (by omega))

/-- A word that is stored lies where it is stored. -/
lemma hasWord_overwrite {offset} (word) (inside : offset + 4 ≤ data.size) :
    (data.overwrite offset (ofWord word)).HasWord offset word := by
  have start := length_take_toList (Nat.le_of_add_right_le inside)
  refine hasWord_iff.2 ⟨by rwa [size_overwrite], ?_⟩
  rw [Bytes.word, window_eq, toList_overwrite (by rwa [length_ofWord]), List.append_assoc,
    List.drop_left' start, List.take_left' (length_ofWord word), littleEndian_ofWord]

/-- Storing a word where it lies changes nothing. -/
lemma overwrite_ofWord_self {offset word} (has : data.HasWord offset word) :
    data.overwrite offset (ofWord word) = data := by
  have agree := agreeOutside_overwrite data offset (ofWord word)
  rw [length_ofWord] at agree
  exact (eq_of_hasWord agree has (hasWord_overwrite word (hasWord_iff.1 has).1)).symm

/-- Storing bytes where they lie changes nothing. -/
lemma overwrite_self {offset patch} (inside : offset + patch.length ≤ data.size)
    (here : (data.toList.drop offset).take patch.length = patch) :
    data.overwrite offset patch = data := by
  apply Array.toList_inj.1
  calc (data.overwrite offset patch).toList
      = data.toList.take offset ++ (patch ++ (data.toList.drop offset).drop patch.length) := by
        rw [toList_overwrite inside, List.append_assoc, List.drop_drop]
    _ = data.toList.take offset ++ ((data.toList.drop offset).take patch.length ++
          (data.toList.drop offset).drop patch.length) := by rw [here]
    _ = data.toList := by rw [List.take_append_drop, List.take_append_drop]

end Bytes

section Seal

open Bytes

variable {image : Bytes}

/-- An image with its size stored. -/
def measured (image : Bytes) : Bytes :=
  image.overwrite 32 (ofWord (UInt32.ofNat image.size))

/-- Sealing is to store the size and to sign. -/
lemma sealed_eq (image : Bytes) : sealed image = sign (measured image) := rfl

/-- Storing the size keeps it. -/
@[simp] lemma size_measured (image : Bytes) : (measured image).size = image.size :=
  size_overwrite ..

/-- There is as much to be signed as there was. -/
lemma le_size_measured (room : 36 ≤ image.size) : 32 ≤ (measured image).size := by
  rw [size_measured]
  omega

/-- Sealing keeps the size. -/
@[simp] lemma size_sealed (image : Bytes) : (sealed image).size = image.size := by
  rw [sealed_eq, size_sign, size_measured]

/-- Signing replaces bytes from 8 to 32. -/
lemma agreeOutside_sign (image : Bytes) : AgreeOutside 8 24 image (sign image) := by
  have signature := agreeOutside_overwrite image 12 (signatureOf image)
  have checksum := agreeOutside_overwrite (image.overwrite 12 (signatureOf image)) 8
    (ofWord (checksumOf (image.overwrite 12 (signatureOf image))))
  rw [length_signatureOf] at signature
  rw [length_ofWord] at checksum
  exact (signature.around (by decide) (by decide)).trans
    (checksum.around (by decide) (by decide))

/-- Sealing replaces bytes from 8 to 36. -/
lemma agreeOutside_sealed (image : Bytes) : AgreeOutside 8 28 image (sealed image) := by
  have size := agreeOutside_overwrite image 32 (ofWord (UInt32.ofNat image.size))
  rw [length_ofWord] at size
  exact (size.around (by decide) (by decide)).trans
    ((agreeOutside_sign (measured image)).around (by decide) (by decide))

/-- An image declares the size that it has, and the signature and the checksum that it should
carry. -/
structure IsSealed (image : Bytes) : Prop where
  fileSize : image.HasWord 32 (UInt32.ofNat image.size)
  signature : (image.toList.drop 12).take 20 = signatureOf image
  checksum : image.HasWord 8 (checksumOf image)

/-- Sealing an image with room for the seal makes it declare what it should. -/
lemma isSealed_sealed (room : 36 ≤ image.size) : IsSealed (sealed image) := by
  have inside := le_size_measured room
  have kept := agreeOutside_sign (measured image)
  -- the size lies behind what signing replaces, and each of the others covers only what is stored
  -- before it
  refine ⟨?_, ?_, ?_⟩
  · rw [size_sealed]
    exact kept.hasWord (.inr (by decide)) (hasWord_overwrite _ room)
  · rw [sealed_eq, drop_twelve_sign inside, signatureOf_sign inside,
      List.take_left' (length_signatureOf _)]
  · rw [sealed_eq, checksumOf_sign inside, sign]
    exact hasWord_overwrite _ (by rw [size_overwrite]; omega)

/-- There is nothing to change in a sealed image. -/
lemma IsSealed.sealed_eq (carries : IsSealed image) : sealed image = image := by
  obtain ⟨room, -⟩ := hasWord_iff.1 carries.fileSize
  have size : measured image = image := overwrite_ofWord_self carries.fileSize
  have signature : image.overwrite 12 (signatureOf image) = image := by
    apply overwrite_self
    · rw [length_signatureOf]
      omega
    · rw [length_signatureOf, carries.signature]
  rw [DexTriage.sealed_eq, size, sign, signature, overwrite_ofWord_self carries.checksum]

/-- No write of a seal leaves an image with room for it. -/
lemma seal?_eq (room : 36 ≤ image.size) : seal? image = some (sealed image) := by
  rw [seal?, setWord?, if_pos room, Option.bind_eq_bind, Option.bind_some]
  exact Blueprint.sign_eq (le_size_measured room)

end Seal

/-- A finding about the order of bytes, and not about the seal. -/
def Inconsistency.isAboutOrder : Inconsistency → Bool
  | reverseEndian | unknownEndian _ => true
  | fileSizeMismatch .. | checksumMismatch .. | signatureMismatch => false

namespace Header

/-- The header with the seal that the image should carry. -/
def withSealOf (image : Bytes) (header : Header) : Header :=
  { header with
    fileSize := UInt32.ofNat image.size
    signature := signatureOf image
    checksum := checksumOf image }

section Sealing

variable {image image' : Bytes} {header : Header}

/-- The seal places no tables. -/
lemma extent_withSealOf (image header table) :
    (withSealOf image header).extent table = header.extent table := by
  cases table <;> rfl

/-- Tables fit or do not fit whatever the seal is. -/
lemma fits_withSealOf {size table} :
    (withSealOf image header).Fits size table ↔ header.Fits size table := by
  rw [Fits, Fits, extent_withSealOf]

/-- An image that has been sealed carries the same header, but for the seal. -/
lemma LaidOut.sealed (agree : Bytes.AgreeOutside 8 28 image image') (carries : IsSealed image')
    (size : image'.size = image.size) (laid : LaidOut image header) :
    LaidOut image' (withSealOf image' header) := by
  have extended : IsExtended image' (withSealOf image' header) ↔ IsExtended image header := by
    rw [IsExtended, IsExtended, size]
    rfl
  have kept (word : HeaderWord) (behind : 36 ≤ word.position) :=
    agree.hasWord (.inr behind) (laid.words word)
  refine ⟨?_, fun word => ?_, carries.signature.symm, fun wide => ?_, fun narrow => ?_⟩
  · exact agree.take_eq.symm.trans laid.magic
  · -- the seal declares two of the words, and all others lie behind what is replaced
    cases word with
    | checksum => exact carries.checksum
    | fileSize => exact carries.fileSize
    | count table =>
      rw [wordOf, extent_withSealOf]
      exact kept (.count table) (by cases table <;> decide)
    | offset table =>
      rw [wordOf, extent_withSealOf]
      exact kept (.offset table) (by cases table <;> decide)
    | headerSize => exact kept .headerSize (by decide)
    | endianTag => exact kept .endianTag (by decide)
    | linkSize => exact kept .linkSize (by decide)
    | linkOffset => exact kept .linkOffset (by decide)
    | mapOffset => exact kept .mapOffset (by decide)
  · obtain ⟨size, offset⟩ := laid.container (extended.1 wide)
    exact ⟨agree.hasWord (.inr (by decide)) size, agree.hasWord (.inr (by decide)) offset⟩
  · exact laid.noContainer (narrow ∘ extended.2)

/-- What comes of an image comes of it when it has been sealed, but for the seal in the header. -/
lemma Outcome.sealed {outcome} (agree : Bytes.AgreeOutside 8 28 image image')
    (carries : IsSealed image') (size : image'.size = image.size) (out : Outcome image outcome) :
    Outcome image' (outcome.map (withSealOf image')) := by
  have magic := agree.take_eq
  cases out with
  | tooShort short =>
    obtain ⟨room, -⟩ := Bytes.hasWord_iff.1 carries.fileSize
    omega
  | unknownMagic long unknown =>
    rw [magic] at unknown ⊢
    exact .unknownMagic (size ▸ long) unknown
  | truncated known short =>
    rw [magic] at known
    rw [← size] at short ⊢
    exact .truncated known short
  | narrow known inside has narrow =>
    rw [magic] at known
    exact .narrow known (size ▸ inside) (agree.hasWord (.inr (by decide)) has) narrow
  | misplaced laid wide order fits misplaced =>
    rw [← size] at fits misplaced ⊢
    rw [← extent_withSealOf image']
    exact .misplaced (laid.sealed agree carries size) wide order
      (fun earlier mem => fits_withSealOf.2 (fits earlier mem)) (misplaced ∘ fits_withSealOf.1)
  | success laid wide fits =>
    rw [← size] at fits
    exact .success (laid.sealed agree carries size) wide fun table => fits_withSealOf.2 (fits table)

end Sealing

variable {image : Bytes}

/-- The findings about the order of bytes are those about the tag. -/
lemma filter_inconsistencies (header : Header) (image) :
    (header.inconsistencies image).filter Inconsistency.isAboutOrder =
      if header.endianTag = littleEndianTag then []
      else if header.endianTag = bigEndianTag then [.reverseEndian]
      else [.unknownEndian header.endianTag] := by
  have size : (if header.fileSize.toNat = image.size then []
      else [Inconsistency.fileSizeMismatch header.fileSize.toNat image.size]).filter
        Inconsistency.isAboutOrder = [] := by
    split <;> rfl
  have checksum : (if checksumOf image = header.checksum then []
      else [Inconsistency.checksumMismatch header.checksum (checksumOf image)]).filter
        Inconsistency.isAboutOrder = [] := by
    split <;> rfl
  have signature : (if signatureOf image = header.signature then []
      else [Inconsistency.signatureMismatch]).filter Inconsistency.isAboutOrder = [] := by
    split <;> rfl
  simp only [inconsistencies, List.filter_append, size, checksum, signature, List.nil_append]
  split
  · rfl
  · split <;> rfl

/-- A header with the seal that the image should carry disagrees about the order of bytes only. -/
lemma inconsistencies_withSealOf (small : image.size < 2 ^ 32) (header : Header) :
    (withSealOf image header).inconsistencies image =
      if header.endianTag = littleEndianTag then []
      else if header.endianTag = bigEndianTag then [.reverseEndian]
      else [.unknownEndian header.endianTag] := by
  have size : (withSealOf image header).fileSize.toNat = image.size :=
    UInt32.toNat_ofNat_of_lt' small
  have checksum : checksumOf image = (withSealOf image header).checksum := rfl
  have signature : signatureOf image = (withSealOf image header).signature := rfl
  simp only [inconsistencies, if_pos size, if_pos checksum, if_pos signature, List.nil_append]
  rfl

/-- An image with room for the seal, and of a size that can be stored, can be sealed in place. It
keeps its size, and parsing the sealed image gives what parsing the image gives: the same refusal,
or the same header with the seal that the sealed image should carry. Of the findings, those about
the order of bytes are left and no others, and sealing it again changes nothing. -/
theorem parse_of_seal {image : Bytes} (room : 36 ≤ image.size) (small : image.size < 2 ^ 32) :
    ∃ image', seal? image = some image' ∧ image'.size = image.size ∧
      parse image' = (parse image).map (withSealOf image') ∧
      (∀ header, parse image = .ok header →
        (withSealOf image' header).inconsistencies image' =
          (header.inconsistencies image).filter Inconsistency.isAboutOrder) ∧
      seal? image' = some image' := by
  have carries := isSealed_sealed room
  have size := size_sealed image
  refine ⟨sealed image, seal?_eq room, size, ?_, fun header _ => ?_, ?_⟩
  · exact ((outcome_parse image).sealed (agreeOutside_sealed image) carries size).eq_parse
  · rw [inconsistencies_withSealOf (by rwa [size]), filter_inconsistencies]
  · rw [seal?_eq (by rwa [size]), carries.sealed_eq]

/-- An image that declares a size and a checksum that it does not have, and an unknown order of
bytes. Sealed, it is accepted as before, and only the order is left to be found. -/
theorem parse_of_seal_of_bareImage :
    parse (bareImage 1 2) = .ok (bareHeader 0x0201) ∧
    [.fileSizeMismatch 0 112, .checksumMismatch 0x226F0074 0x226E0074] ⊆
      (bareHeader 0x0201).inconsistencies (bareImage 1 2) ∧
    ∃ image', seal? (bareImage 1 2) = some image' ∧ image'.size = 112 ∧
      parse image' = .ok (withSealOf image' (bareHeader 0x0201)) ∧
      (withSealOf image' (bareHeader 0x0201)).inconsistencies image' = [.unknownEndian 0] ∧
      seal? image' = some image' := by
  have accepted : parse (bareImage 1 2) = .ok (bareHeader 0x0201) := by decide +kernel
  have room : 36 ≤ (bareImage 1 2).size := by decide
  obtain ⟨image', stored, size, parsed, found, again⟩ := parse_of_seal room (by decide)
  refine ⟨accepted, by decide +kernel, image', stored, size, ?_, ?_, again⟩
  · rw [parsed, accepted]
    rfl
  · rw [found _ accepted, filter_inconsistencies]
    rfl

end Header

end DexTriage
