import Mathlib
import DexTriage.Proofs.Header.Layout

/-!
# Headers are read back

The bytes that `Header.encode` writes are read as the header that was written, whatever is behind
them (`readChecked_encode`), save that container fields are dropped where they do not count
(`Header.asRead`).
-/

namespace DexTriage

namespace FieldReader

/-- The bytes of a field are read back. -/
lemma bytes_run_append {count} {field rest : List UInt8} (length : field.length = count) :
    (bytes count).run (field ++ rest) = some (field, rest) := by
  have room : count ≤ (field ++ rest).length := by
    rw [List.length_append]
    omega
  rw [StateT.run, bytes, if_pos room, List.take_left' length, List.drop_left' length]

/-- A word is read back. -/
lemma word_run_append (value rest) :
    word.run (Bytes.ofWord value ++ rest) = some (value, rest) := by
  rw [word, bind_run (bytes_run_append (Bytes.length_ofWord value)), Bytes.littleEndian_ofWord]
  rfl

end FieldReader

namespace Header

open FieldReader Bytes

/-- The bytes of an extent. -/
def extentBytes (extent : Extent) : List UInt8 :=
  ofWord extent.count ++ ofWord extent.offset

/-- The container fields of a header that is wide enough for them. -/
def containerBytes (header : Header) : List UInt8 :=
  if containerHeaderWidth ≤ header.headerSize.toNat then
    ofWord header.containerSize ++ ofWord header.containerOffset
  else
    []

/-- What of a header is behind the signature. -/
def behindSignature (header : Header) : List UInt8 :=
  ofWord header.fileSize ++ (ofWord header.headerSize ++ (ofWord header.endianTag ++
    (ofWord header.linkSize ++ (ofWord header.linkOffset ++ (ofWord header.mapOffset ++
      (extentBytes header.stringIds ++ (extentBytes header.typeIds ++
        (extentBytes header.protoIds ++ (extentBytes header.fieldIds ++
          (extentBytes header.methodIds ++ (extentBytes header.classDefs ++
            (extentBytes header.data ++ containerBytes header))))))))))))

/-- The header with its container fields cleared. -/
def withoutContainer (header : Header) : Header :=
  { header with containerSize := 0, containerOffset := 0 }

/-- The header that is read where one was written. -/
def asRead (header : Header) : Header :=
  if header.version = .v41 ∧ containerHeaderWidth ≤ header.headerSize.toNat then header
  else header.withoutContainer

/-- A header is written magic first, then checksum and signature. -/
lemma encode_eq (header : Header) :
    header.encode = header.version.magic ++ (ofWord header.checksum ++
      (header.signature ++ header.behindSignature)) := by
  simp [encode, behindSignature, extentBytes, containerBytes, Table.all, extent, List.append_assoc]

/-- Checksum and signature are not repeated behind the signature. -/
lemma behindSignature_withSeal (header : Header) (checksum signature) :
    ({ header with checksum := checksum, signature := signature } : Header).behindSignature =
      header.behindSignature :=
  rfl

/-- Checksum and signature place no tables. -/
lemma extent_withSeal (header : Header) (checksum signature table) :
    ({ header with checksum := checksum, signature := signature } : Header).extent table =
      header.extent table := by
  cases table <;> rfl

/-- An extent is read back. -/
lemma readExtent_run_append (extent : Extent) (rest) :
    readExtent.run (extentBytes extent ++ rest) = some (extent, rest) := by
  rw [readExtent, extentBytes, List.append_assoc, bind_run (word_run_append _ _),
    bind_run (word_run_append _ _)]
  rfl

/-- The fields of a header are read back, up to the container fields. -/
lemma readFields_encode (header : Header) (signature : header.signature.length = 20) (rest) :
    (readFields header.version).run ((header.encode ++ rest).drop 8) =
      some (header.withoutContainer, header.containerBytes ++ rest) := by
  rw [encode_eq, List.append_assoc, List.drop_left' header.version.length_magic, behindSignature]
  simp only [List.append_assoc]
  rw [readFields, bind_run (word_run_append _ _), bind_run (bytes_run_append signature),
    bind_run (word_run_append _ _), bind_run (word_run_append _ _), bind_run (word_run_append _ _),
    bind_run (word_run_append _ _), bind_run (word_run_append _ _), bind_run (word_run_append _ _),
    bind_run (readExtent_run_append _ _), bind_run (readExtent_run_append _ _),
    bind_run (readExtent_run_append _ _), bind_run (readExtent_run_append _ _),
    bind_run (readExtent_run_append _ _), bind_run (readExtent_run_append _ _),
    bind_run (readExtent_run_append _ _)]
  rfl

/-- The size of a written header. -/
lemma length_encode (header : Header) (signature : header.signature.length = 20) :
    header.encode.length = 0x70 + header.containerBytes.length := by
  simp only [encode_eq, behindSignature, extentBytes, List.length_append, length_ofWord,
    Version.length_magic, signature, ← Nat.add_assoc, Nat.reduceAdd]

/-- Tables are placed the same with or without container fields. -/
lemma extent_asRead (header : Header) (table) :
    header.asRead.extent table = header.extent table := by
  rw [asRead]
  split
  · rfl
  · cases table <;> rfl

/-- Container fields are read back. -/
lemma readContainer_run_append (header : Header) (rest) :
    header.withoutContainer.readContainer.run
        (ofWord header.containerSize ++ ofWord header.containerOffset ++ rest) =
      some (header, rest) := by
  rw [readContainer, List.append_assoc, bind_run (word_run_append _ _),
    bind_run (word_run_append _ _)]
  rfl

/-- A written header is read back, whatever is behind it. -/
lemma readChecked_encode (header : Header) (signature : header.signature.length = 20)
    (wide : 0x70 ≤ header.headerSize.toNat) (rest) :
    readChecked (header.encode ++ rest).toArray = .ok header.asRead := by
  have magic : (header.encode ++ rest).take 8 = magicOf header.version.number := by
    rw [encode_eq, List.append_assoc, Version.magic_eq]
    exact List.take_left' rfl
  have size : (header.encode ++ rest).toArray.size =
      0x70 + header.containerBytes.length + rest.length := by
    rw [List.size_toArray, List.length_append, length_encode header signature]
  have inside : ¬ (header.encode ++ rest).toArray.size < headerWidth := by
    rw [size, headerWidth]
    omega
  have same (n) : header.withoutContainer.hasContainer n = header.hasContainer n := rfl
  have width : header.withoutContainer.headerSize = header.headerSize := rfl
  simp only [readChecked, Bytes.window_eq, List.drop_zero, magic, Version.ofMagic?_magicOf,
    readFields_encode header signature rest]
  rw [if_neg inside, width, headerWidth, if_neg (by omega), asRead, same]
  by_cases extended : header.version = .v41 ∧ containerHeaderWidth ≤ header.headerSize.toNat
  · have bytes : header.containerBytes =
        ofWord header.containerSize ++ ofWord header.containerOffset := by
      rw [containerBytes, if_pos extended.2]
    have room : 0x78 ≤ (header.encode ++ rest).toArray.size := by
      rw [size, bytes, List.length_append, length_ofWord, length_ofWord]
      omega
    rw [if_pos (hasContainer_iff.2 ⟨extended.1, extended.2, room⟩), if_pos extended, bytes,
      readContainer_run_append]
  · have narrow : ¬ header.hasContainer (header.encode ++ rest).toArray.size = true := by
      intro has
      obtain ⟨version, wide, -⟩ := hasContainer_iff.1 has
      exact extended ⟨version, wide⟩
    rw [if_neg narrow, if_neg extended]

end Header

end DexTriage
