import Mathlib
import DexTriage.Image.Header
import DexTriage.Proofs.Bytes
import DexTriage.Proofs.Except

/-!
# The layout of a header

`HeaderWord` names the words of a header and says where each of them lies in an image, and
`Header.LaidOut` says that an image carries a header in this layout. Reading the fields one after
the other (`readFields_run`) finds every one of them at its place, so that the header that is read
(`readChecked_eq`) is the one that the image carries (`laidOut_carried`, `LaidOut.unique`).
-/

namespace DexTriage

/-- The eight bytes that name the version with the given two-digit number. -/
def magicOf (number : Nat) : List UInt8 :=
  [0x64, 0x65, 0x78, 0x0A, 0x30, UInt8.ofNat (0x30 + number / 10), UInt8.ofNat (0x30 + number % 10),
    0x00]

/-- The bytes name a version from 35 to 41. -/
def IsKnownMagic (bytes : List UInt8) : Prop :=
  ∃ number, 35 ≤ number ∧ number ≤ 41 ∧ bytes = magicOf number

/-- The words of a header, without container fields. -/
inductive HeaderWord where
  | checksum
  | fileSize
  | headerSize
  | endianTag
  | linkSize
  | linkOffset
  | mapOffset
  | count (table : Table)
  | offset (table : Table)

/-- Where the extent of a table lies. -/
def Table.position : Table → Nat
  | stringIds => 56
  | typeIds => 64
  | protoIds => 72
  | fieldIds => 80
  | methodIds => 88
  | classDefs => 96
  | data => 104

/-- Where a word of a header lies. -/
def HeaderWord.position : HeaderWord → Nat
  | checksum => 8
  | fileSize => 32
  | headerSize => 36
  | endianTag => 40
  | linkSize => 44
  | linkOffset => 48
  | mapOffset => 52
  | count table => table.position
  | offset table => table.position + 4

namespace Header

/-- What a header has for a word. -/
def wordOf (header : Header) : HeaderWord → UInt32
  | .checksum => header.checksum
  | .fileSize => header.fileSize
  | .headerSize => header.headerSize
  | .endianTag => header.endianTag
  | .linkSize => header.linkSize
  | .linkOffset => header.linkOffset
  | .mapOffset => header.mapOffset
  | .count table => (header.extent table).count
  | .offset table => (header.extent table).offset

/-- A header of version 41 that is wide enough for container fields, as the image is. -/
def IsExtended (image : Bytes) (header : Header) : Prop :=
  header.version = .v41 ∧ 0x78 ≤ header.headerSize.toNat ∧ 0x78 ≤ image.size

/-- The image carries the header. -/
structure LaidOut (image : Bytes) (header : Header) : Prop where
  magic : image.toList.take 8 = magicOf header.version.number
  words : ∀ word : HeaderWord, image.HasWord word.position (header.wordOf word)
  signature : header.signature = (image.toList.drop 12).take 20
  container : IsExtended image header →
    image.HasWord 0x70 header.containerSize ∧ image.HasWord 0x74 header.containerOffset
  noContainer : ¬ IsExtended image header →
    header.containerSize = 0 ∧ header.containerOffset = 0

end Header

/-- The bytes that a version is named by, in terms of its number. -/
lemma Version.magic_eq (version : Version) : version.magic = magicOf version.number := by
  cases version <;> rfl

/-- A magic takes eight bytes. -/
lemma Version.length_magic (version : Version) : version.magic.length = 8 := by
  rw [magic_eq]
  rfl

/-- The known versions are those from 35 to 41. -/
lemma Version.exists_number_iff {number : Nat} :
    (∃ version : Version, version.number = number) ↔ 35 ≤ number ∧ number ≤ 41 := by
  constructor
  · rintro ⟨version, rfl⟩
    cases version <;> decide
  · rintro ⟨lo, hi⟩
    interval_cases number
    exacts [⟨.v35, rfl⟩, ⟨.v36, rfl⟩, ⟨.v37, rfl⟩, ⟨.v38, rfl⟩, ⟨.v39, rfl⟩, ⟨.v40, rfl⟩,
      ⟨.v41, rfl⟩]

/-- A version is found by the bytes that it is named by. -/
lemma Version.ofMagic?_magicOf (version : Version) :
    ofMagic? (magicOf version.number) = some version := by
  rw [← magic_eq, ofMagic?_magic]

/-- No version is found where none is named. -/
lemma Version.ofMagic?_eq_none {bytes} (unknown : ¬ IsKnownMagic bytes) :
    ofMagic? bytes = none := by
  cases found : ofMagic? bytes with
  | none => rfl
  | some version =>
    have named := List.find?_some found
    rw [beq_iff_eq, magic_eq] at named
    obtain ⟨lo, hi⟩ := exists_number_iff.1 ⟨version, rfl⟩
    exact absurd ⟨_, lo, hi, named.symm⟩ unknown

/-- A known magic names a version. -/
lemma IsKnownMagic.exists_version {bytes} (known : IsKnownMagic bytes) :
    ∃ version : Version, bytes = magicOf version.number := by
  obtain ⟨number, lo, hi, rfl⟩ := known
  obtain ⟨version, rfl⟩ := Version.exists_number_iff.2 ⟨lo, hi⟩
  exact ⟨version, rfl⟩

namespace FieldReader

/-- What follows a field is read from behind it. -/
lemma bind_run {α β : Type} {field : FieldReader α} {rest rest' value}
    (read : field.run rest = some (value, rest')) (next : α → FieldReader β) :
    (field >>= next).run rest = (next value).run rest' := by
  rw [StateT.run_bind, read, Option.bind_eq_bind, Option.bind_some]

/-- The bytes of the next field are those at the offset that has been reached. -/
lemma bytes_run {data : Bytes} {offset count} (inside : offset + count ≤ data.size) :
    (bytes count).run (data.toList.drop offset) =
      some ((data.toList.drop offset).take count, data.toList.drop (offset + count)) := by
  have room : count ≤ (data.toList.drop offset).length := by
    rw [List.length_drop, Array.length_toList]
    omega
  rw [StateT.run, bytes, if_pos room, List.drop_drop]

/-- The next word is that at the offset that has been reached. -/
lemma word_run {data : Bytes} {offset} (inside : offset + 4 ≤ data.size) :
    word.run (data.toList.drop offset) =
      some (data.word offset, data.toList.drop (offset + 4)) := by
  rw [word, StateT.run_bind, bytes_run inside, Bytes.word, Bytes.window_eq]
  rfl

end FieldReader

namespace Header

open FieldReader

/-- The next two words are those at the offset that has been reached. -/
lemma readExtent_run {data : Bytes} {offset} (inside : offset + 8 ≤ data.size) :
    readExtent.run (data.toList.drop offset) =
      some (⟨data.word offset, data.word (offset + 4)⟩, data.toList.drop (offset + 8)) := by
  rw [readExtent, bind_run (word_run (by omega)), bind_run (word_run (by omega))]
  rfl

/-- The header whose words are those at their places in the image, without container fields. -/
def atPlaces (image : Bytes) (version : Version) : Header where
  version := version
  checksum := image.word 8
  signature := (image.toList.drop 12).take 20
  fileSize := image.word 32
  headerSize := image.word 36
  endianTag := image.word 40
  linkSize := image.word 44
  linkOffset := image.word 48
  mapOffset := image.word 52
  stringIds := ⟨image.word 56, image.word 60⟩
  typeIds := ⟨image.word 64, image.word 68⟩
  protoIds := ⟨image.word 72, image.word 76⟩
  fieldIds := ⟨image.word 80, image.word 84⟩
  methodIds := ⟨image.word 88, image.word 92⟩
  classDefs := ⟨image.word 96, image.word 100⟩
  data := ⟨image.word 104, image.word 108⟩

/-- Fields that are read one after the other come from their places in the layout. -/
lemma readFields_run {image : Bytes} (version) (inside : 0x70 ≤ image.size) :
    (readFields version).run (image.toList.drop 8) =
      some (atPlaces image version, image.toList.drop 0x70) := by
  -- one step for each field; the offsets add up along the layout
  rw [readFields, bind_run (word_run (by omega)), bind_run (bytes_run (by omega)),
    bind_run (word_run (by omega)), bind_run (word_run (by omega)), bind_run (word_run (by omega)),
    bind_run (word_run (by omega)), bind_run (word_run (by omega)), bind_run (word_run (by omega)),
    bind_run (readExtent_run (by omega)), bind_run (readExtent_run (by omega)),
    bind_run (readExtent_run (by omega)), bind_run (readExtent_run (by omega)),
    bind_run (readExtent_run (by omega)), bind_run (readExtent_run (by omega)),
    bind_run (readExtent_run (by omega))]
  rfl

/-- The container fields are read at the end of the others. -/
lemma readContainer_run {image : Bytes} (header) (inside : 0x78 ≤ image.size) :
    (readContainer header).run (image.toList.drop 0x70) =
      some ({ header with containerSize := image.word 0x70, containerOffset := image.word 0x74 },
        image.toList.drop 0x78) := by
  rw [readContainer, bind_run (word_run (by omega)), bind_run (word_run (by omega))]
  rfl

/-- The check for container fields is that of version and both widths. -/
lemma hasContainer_iff {image : Bytes} {header : Header} :
    header.hasContainer image.size = true ↔ IsExtended image header := by
  simp only [hasContainer, Bool.and_eq_true, beq_iff_eq, decide_eq_true_eq, and_assoc]
  rfl

/-- Headers that agree in every field are equal. -/
lemma eq_of_wordOf {a b : Header} (version : a.version = b.version)
    (words : ∀ word, a.wordOf word = b.wordOf word) (signature : a.signature = b.signature)
    (size : a.containerSize = b.containerSize) (offset : a.containerOffset = b.containerOffset) :
    a = b := by
  have extents (table) : a.extent table = b.extent table := by
    have count : (a.extent table).count = (b.extent table).count := words (.count table)
    have offset : (a.extent table).offset = (b.extent table).offset := words (.offset table)
    cases h : a.extent table
    cases h' : b.extent table
    simp_all
  cases a
  cases b
  simp only [Header.mk.injEq]
  exact ⟨version, words .checksum, signature, words .fileSize, words .headerSize, words .endianTag,
    words .linkSize, words .linkOffset, words .mapOffset, extents .stringIds, extents .typeIds,
    extents .protoIds, extents .fieldIds, extents .methodIds, extents .classDefs, extents .data,
    size, offset⟩

/-- The words at their places are those of the header. -/
lemma wordOf_atPlaces (image version word) :
    (atPlaces image version).wordOf word = image.word word.position := by
  cases word with
  | count table => cases table <;> rfl
  | offset table => cases table <;> rfl
  | _ => rfl

/-- Container fields are no words of the layout. -/
lemma wordOf_withContainer (header : Header) (size offset word) :
    ({ header with containerSize := size, containerOffset := offset } : Header).wordOf word =
      header.wordOf word := by
  cases word with
  | count table => cases table <;> rfl
  | offset table => cases table <;> rfl
  | _ => rfl

/-- Whether there are container fields does not depend on what they are. -/
lemma isExtended_withContainer {image : Bytes} {header : Header} {size offset} :
    IsExtended image { header with containerSize := size, containerOffset := offset } ↔
      IsExtended image header :=
  Iff.rfl

/-- Every word lies in the first `0x70` bytes. -/
lemma position_le (word : HeaderWord) : word.position + 4 ≤ 0x70 := by
  cases word with
  | count table => cases table <;> decide
  | offset table => cases table <;> decide
  | _ => decide

/-- The header that an image of a version carries, container fields included. -/
def carried (image : Bytes) (version : Version) : Header :=
  if (atPlaces image version).hasContainer image.size then
    { atPlaces image version with
      containerSize := image.word 0x70, containerOffset := image.word 0x74 }
  else
    atPlaces image version

/-- An image that is wide enough and has the magic of a version carries a header. -/
lemma laidOut_carried {image : Bytes} {version : Version} (inside : 0x70 ≤ image.size)
    (magic : image.toList.take 8 = magicOf version.number) :
    LaidOut image (carried image version) := by
  have words (word) : image.HasWord word.position ((atPlaces image version).wordOf word) := by
    have := position_le word
    rw [wordOf_atPlaces]
    exact Bytes.hasWord_word (by omega)
  rw [carried]
  split
  · rename_i extended
    obtain ⟨-, -, wide⟩ := hasContainer_iff.1 extended
    refine ⟨magic, fun word => ?_, rfl, fun _ => ⟨?_, ?_⟩, ?_⟩
    · rw [wordOf_withContainer]
      exact words word
    · exact Bytes.hasWord_word (by omega)
    · exact Bytes.hasWord_word (by omega)
    · exact fun narrow => absurd (isExtended_withContainer.2 (hasContainer_iff.1 extended)) narrow
  · rename_i narrow
    exact ⟨magic, words, rfl, fun extended => absurd (hasContainer_iff.2 extended) narrow,
      fun _ => ⟨rfl, rfl⟩⟩

/-- An image carries at most one header of a version. -/
lemma LaidOut.unique {image : Bytes} {a b : Header} (laid : LaidOut image a)
    (laid' : LaidOut image b) (version : a.version = b.version) : a = b := by
  have words (word) : a.wordOf word = b.wordOf word := (laid.words word).unique (laid'.words word)
  have extended : IsExtended image a ↔ IsExtended image b := by
    rw [IsExtended, IsExtended, version, show a.headerSize = b.headerSize from words .headerSize]
  -- the container fields are either words of the image or zero, for both headers alike
  by_cases wide : IsExtended image a
  · obtain ⟨size, offset⟩ := laid.container wide
    obtain ⟨size', offset'⟩ := laid'.container (extended.1 wide)
    exact eq_of_wordOf version words (laid.signature.trans laid'.signature.symm)
      (size.unique size') (offset.unique offset')
  · obtain ⟨size, offset⟩ := laid.noContainer wide
    obtain ⟨size', offset'⟩ := laid'.noContainer (wide ∘ extended.2)
    exact eq_of_wordOf version words (laid.signature.trans laid'.signature.symm)
      (size.trans size'.symm) (offset.trans offset'.symm)

/-- An image with an unknown magic is refused for it. -/
lemma readChecked_of_unknown {image : Bytes} (unknown : ¬ IsKnownMagic (image.toList.take 8)) :
    readChecked image = .error (.invalidMagic (image.toList.take 8)) := by
  simp only [readChecked, Bytes.window_eq, List.drop_zero, Version.ofMagic?_eq_none unknown]

/-- An image with a known magic and too few bytes is refused for its size. -/
lemma readChecked_of_truncated {image : Bytes} (known : IsKnownMagic (image.toList.take 8))
    (short : image.size < 0x70) :
    readChecked image = .error (.headerTruncated image.size 0x70) := by
  obtain ⟨version, magic⟩ := known.exists_version
  have narrow : image.size < headerWidth := short
  simp only [readChecked, Bytes.window_eq, List.drop_zero, magic, Version.ofMagic?_magicOf]
  rw [if_pos narrow]
  rfl

/-- What `readChecked` gives for an image with a known magic and enough bytes. -/
lemma readChecked_eq {image : Bytes} {version : Version} (inside : 0x70 ≤ image.size)
    (magic : image.toList.take 8 = magicOf version.number) :
    readChecked image =
      if (image.word 36).toNat < 0x70 then .error (.headerTruncated (image.word 36).toNat 0x70)
      else .ok (carried image version) := by
  have wide : ¬ image.size < headerWidth := by
    rw [headerWidth]
    omega
  simp only [readChecked, Bytes.window_eq, List.drop_zero, magic, Version.ofMagic?_magicOf,
    readFields_run version inside]
  rw [if_neg wide, show (atPlaces image version).headerSize = image.word 36 from rfl, headerWidth]
  split
  · rfl
  · rw [carried]
    split
    · rename_i extended
      obtain ⟨-, -, room⟩ := hasContainer_iff.1 extended
      rw [readContainer_run _ room]
    · rfl

end Header

end DexTriage
