import Mathlib
import DexTriage.Image.Seal
import DexTriage.Proofs.Bytes

/-!
# Sealing keeps all but the seal

Signing an image replaces the twenty bytes of the signature and the four of the checksum, and
nothing else (`toList_sign`). Neither of the two is about bytes that are replaced after it has been
stored, so that a signed image carries the seal that it should (`signatureOf_sign`,
`checksumOf_sign`).
-/

namespace DexTriage

/-- A signature takes twenty bytes. -/
lemma length_signatureOf (image) : (signatureOf image).length = 20 :=
  Digest.Sha1.length_digest _

/-- The checksum of an image is that of the bytes behind the checksum field. -/
lemma checksumOf_eq (image : Bytes) :
    checksumOf image = Digest.Adler32.checksum (image.toList.drop 12) := by
  rw [checksumOf, Array.toList_extract, List.extract_eq_drop_take']
  rw [List.take_of_length_le]
  simp

/-- The signature of an image is that of the bytes behind the signature field. -/
lemma signatureOf_eq (image : Bytes) :
    signatureOf image = Digest.Sha1.digest (image.toList.drop 32).toArray := by
  have behind : image.extract 32 image.size = (image.toList.drop 32).toArray := by
    apply Array.toList_inj.1
    rw [Array.toList_extract, List.extract_eq_drop_take', List.take_of_length_le]
    simp
  rw [signatureOf, behind]

/-- Storing a signature replaces the bytes from 12 to 32. -/
lemma toList_overwrite_signature {image : Bytes} (inside : 32 ≤ image.size) :
    (image.overwrite 12 (signatureOf image)).toList =
      image.toList.take 12 ++ (signatureOf image ++ image.toList.drop 32) := by
  have end₃₂ : 12 + (signatureOf image).length = 32 := by
    rw [length_signatureOf]
  rw [Bytes.toList_overwrite (by omega), end₃₂, List.append_assoc]

/-- Signing keeps the size. -/
@[simp] lemma size_sign (image : Bytes) : (sign image).size = image.size := by
  rw [sign, Bytes.size_overwrite, Bytes.size_overwrite]

/-- A signed image is the old one but for the bytes from 8 to 32. -/
lemma toList_sign {image : Bytes} (inside : 32 ≤ image.size) :
    (sign image).toList =
      image.toList.take 8 ++
        (Bytes.ofWord (checksumOf (image.overwrite 12 (signatureOf image))) ++
          (signatureOf image ++ image.toList.drop 32)) := by
  have signed := toList_overwrite_signature inside
  have start : (image.toList.take 12).length = 12 := Bytes.length_take_toList (by omega)
  have room : 8 + (Bytes.ofWord (checksumOf (image.overwrite 12 (signatureOf image)))).length ≤
      (image.overwrite 12 (signatureOf image)).size := by
    rw [Bytes.size_overwrite, Bytes.length_ofWord]
    omega
  rw [sign, Bytes.toList_overwrite room, signed, Bytes.length_ofWord, List.drop_left' start,
    List.take_append_of_le_length (by omega), List.take_take, List.append_assoc]
  rfl

/-- Behind the checksum field, a signed image is the signature and what was behind that. -/
lemma drop_twelve_sign {image : Bytes} (inside : 32 ≤ image.size) :
    (sign image).toList.drop 12 = signatureOf image ++ image.toList.drop 32 := by
  have start : (image.toList.take 8 ++
      Bytes.ofWord (checksumOf (image.overwrite 12 (signatureOf image)))).length = 12 := by
    rw [List.length_append, Bytes.length_ofWord, Bytes.length_take_toList (by omega)]
  rw [toList_sign inside, ← List.append_assoc, List.drop_left' start]

/-- A signed image carries the signature that it should: nothing behind it has changed. -/
lemma signatureOf_sign {image : Bytes} (inside : 32 ≤ image.size) :
    signatureOf (sign image) = signatureOf image := by
  rw [signatureOf_eq (sign image), ← List.drop_drop (i := 20) (j := 12), drop_twelve_sign inside,
    List.drop_left' (length_signatureOf image), ← signatureOf_eq]

/-- A signed image carries the checksum that it should: only the checksum was stored after it had
been computed. -/
lemma checksumOf_sign {image : Bytes} (inside : 32 ≤ image.size) :
    checksumOf (sign image) = checksumOf (image.overwrite 12 (signatureOf image)) := by
  have start : (image.toList.take 12).length = 12 := Bytes.length_take_toList (by omega)
  rw [checksumOf_eq, checksumOf_eq, drop_twelve_sign inside, toList_overwrite_signature inside,
    List.drop_left' start]

end DexTriage
