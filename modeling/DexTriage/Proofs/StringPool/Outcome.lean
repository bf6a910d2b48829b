import Mathlib
import DexTriage.Proofs.Header.Outcome
import DexTriage.Proofs.Mutf8.Extension
import DexTriage.Proofs.StringPool
import DexTriage.Proofs.Uleb128

/-!
# What comes of a string id

`TextOutcome` lists what can come of the text at an offset: it is read, or refused for one of four
reasons, each of which is looked for only if those before it do not apply. `textAt_eq_iff_outcome`
shows that `textAt` gives the outcome that the image has; `StringPool.entry_eq_iff_outcome` says it of
every string id of an image whose header is accepted, and that no offset on the way leaves the image
or 64 bits.
-/

namespace DexTriage

/-- What comes of the text whose length field starts at `offset`. -/
inductive TextOutcome (image : Bytes) (limit offset : Nat) : Except ImageError String → Prop where
  | unreadLength {e} :
    Uleb128.read image offset = .error e →
    TextOutcome image limit offset (.error e)
  | tooLong {units width} :
    Uleb128.read image offset = .ok (units, width) →
    limit < units.toNat →
    TextOutcome image limit offset (.error (.stringTooLong units.toNat limit))
  | outside {units width} :
    Uleb128.read image offset = .ok (units, width) →
    units.toNat ≤ limit →
    image.size < offset + width + units.toNat →
    TextOutcome image limit offset
      (.error (.offsetOutOfRange (offset + width) units.toNat image.size))
  | unreadText {units width e} :
    Uleb128.read image offset = .ok (units, width) →
    units.toNat ≤ limit →
    offset + width + units.toNat ≤ image.size →
    Mutf8.decode (image.toList.drop (offset + width)) units.toNat = .error e →
    TextOutcome image limit offset (.error e)
  | text {units width text} :
    Uleb128.read image offset = .ok (units, width) →
    units.toNat ≤ limit →
    units.toNat = length16 text →
    Mutf8.Begins (image.toList.drop (offset + width)) text →
    TextOutcome image limit offset (.ok text)

/-- A text that is declared to go on behind the end of the image cannot be read. -/
lemma le_size_of_decode {image : Bytes} {start units text}
    (read : Mutf8.decode (image.toList.drop start) units = .ok text) (inside : start ≤ image.size) :
    start + units ≤ image.size := by
  obtain ⟨rfl, begins⟩ := Mutf8.decode_eq_ok_iff.1 read
  have fits := begins.length16_le
  rw [List.length_drop, Array.length_toList] at fits
  omega

/-- A text is read from everything behind its length field. -/
lemma textAt_of_read_drop {image : Bytes} {offset units width} (limit)
    (read : Uleb128.read image offset = .ok (units, width)) :
    textAt image limit offset =
      if limit < units.toNat then .error (.stringTooLong units.toNat limit)
      else if image.size < offset + width + units.toNat then
        .error (.offsetOutOfRange (offset + width) units.toNat image.size)
      else
        Mutf8.decode (image.toList.drop (offset + width)) units.toNat := by
  rw [textAt_of_read limit read, Bytes.window_eq, maxUnitWidth, Mutf8.decode_take le_rfl]

/-- Every outcome is the one that reading gives. -/
lemma TextOutcome.eq_textAt {image : Bytes} {limit offset outcome}
    (out : TextOutcome image limit offset outcome) : textAt image limit offset = outcome := by
  cases out with
  | unreadLength refused => rw [textAt, refused, error_bind]
  | tooLong read long => rw [textAt_of_read_drop limit read, if_pos long]
  | outside read short outside =>
    rw [textAt_of_read_drop limit read, if_neg (not_lt.2 short), if_pos outside]
  | unreadText read short inside refused =>
    rw [textAt_of_read_drop limit read, if_neg (not_lt.2 short), if_neg (not_lt.2 inside), refused]
  | text read short units begins =>
    have accepted := Mutf8.decode_eq_ok_iff.2 ⟨units, begins⟩
    obtain ⟨-, -, inside⟩ := Uleb128.width_of_read read
    have room := le_size_of_decode accepted inside
    rw [textAt_of_read_drop limit read, if_neg (not_lt.2 short), if_neg (not_lt.2 room), accepted]

/-- What reading gives is an outcome of the image. -/
lemma textOutcome_textAt (image : Bytes) (limit offset : Nat) :
    TextOutcome image limit offset (textAt image limit offset) := by
  -- in the order in which a text is refused; each outcome is the one that reading gives
  cases read : Uleb128.read image offset with
  | error e =>
    have out : TextOutcome image limit offset _ := .unreadLength read
    rwa [out.eq_textAt]
  | ok result =>
    obtain ⟨units, width⟩ := result
    by_cases short : units.toNat ≤ limit
    · by_cases inside : offset + width + units.toNat ≤ image.size
      · cases decoded : Mutf8.decode (image.toList.drop (offset + width)) units.toNat with
        | error e =>
          have out := TextOutcome.unreadText read short inside decoded
          rwa [out.eq_textAt]
        | ok text =>
          obtain ⟨count, begins⟩ := Mutf8.decode_eq_ok_iff.1 decoded
          have out := TextOutcome.text read short count begins
          rwa [out.eq_textAt]
      · have out := TextOutcome.outside read short (not_le.1 inside)
        rwa [out.eq_textAt]
    · have out := TextOutcome.tooLong read (not_le.1 short)
      rwa [out.eq_textAt]

/-- Reading gives the outcome that the image has, and no other. -/
lemma textAt_eq_iff_outcome {image : Bytes} {limit offset outcome} :
    textAt image limit offset = outcome ↔ TextOutcome image limit offset outcome := by
  constructor
  · rintro rfl
    exact textOutcome_textAt image limit offset
  · exact TextOutcome.eq_textAt

/-- A word that lies at an offset is read there. -/
lemma Bytes.wordAt_of_hasWord {data : Bytes} {offset word} (has : data.HasWord offset word) :
    data.wordAt offset = .ok word := by
  obtain ⟨inside, rfl⟩ := hasWord_iff.1 has
  rw [wordAt, numberAt, if_pos inside]
  rfl

/-- A word that is read at an offset lies there. -/
lemma Bytes.hasWord_of_wordAt {data : Bytes} {offset word} (read : data.wordAt offset = .ok word) :
    data.HasWord offset word := by
  rw [wordAt, numberAt] at read
  split at read
  · rename_i inside
    cases read
    exact hasWord_word inside
  · cases read

namespace StringPool

/-- The word of every string id lies in the image. -/
lemma exists_hasWord_of_parse {image : Bytes} {header : Header} {id}
    (parsed : Header.parse image = .ok header) (listed : id < header.stringIds.count.toNat) :
    ∃ offset, image.HasWord (header.stringIds.offset.toNat + 4 * id) offset := by
  obtain ⟨-, -, fits⟩ := Header.laidOut_of_parse parsed
  have inside : header.stringIds.offset.toNat + 4 * id + 4 ≤ image.size := by
    obtain empty | inside := fits .stringIds
    · have none : header.stringIds.count.toNat = 0 := empty
      omega
    · have inside : header.stringIds.offset.toNat + header.stringIds.count.toNat * 4 ≤ image.size :=
        inside
      omega
  exact ⟨_, Bytes.hasWord_word inside⟩

/-- The text of an id is that at the offset that the id holds. -/
lemma entry_of_hasWord {image : Bytes} {header : Header} {id offset} (limit)
    (has : image.HasWord (header.stringIds.offset.toNat + 4 * id) offset) :
    entry image header limit id = textAt image limit offset.toNat := by
  rw [entry, Bytes.wordAt_of_hasWord has, ok_bind]

/-- The entry of an id stands in the list from which the pool is made. -/
lemma getElem?_entries {image : Bytes} {header : Header} {id} (limit)
    (listed : id < header.stringIds.count.toNat) :
    ((List.range header.stringIds.count.toNat).map (entry image header limit))[id]? =
      some (entry image header limit id) := by
  rw [List.getElem?_map, List.getElem?_range listed, Option.map_some]

/-- An id is omitted for an error exactly when its entry is that error. -/
lemma mem_omitted_read_iff {image : Bytes} {header : Header} {limit id e}
    (listed : id < header.stringIds.count.toNat) :
    ⟨id, e⟩ ∈ (read image header limit).omitted ↔ entry image header limit id = .error e := by
  rw [read, mem_omitted_iff, getElem?_entries limit listed, Option.some.injEq]

/-- An id has a text in the pool exactly when its entry is that text. -/
lemma textOfId?_read_iff {image : Bytes} {header : Header} {limit id text}
    (listed : id < header.stringIds.count.toNat) :
    (read image header limit).textOfId? id = some text ↔
      entry image header limit id = .ok text := by
  have listing : ((List.range header.stringIds.count.toNat).map (entry image header limit))[id]? =
      some (entry image header limit id) := getElem?_entries limit listed
  constructor
  · intro kept
    cases refused : entry image header limit id with
    | ok other =>
      rw [refused] at listing
      rw [read, textOfId?_ofEntries listing, Option.some.injEq] at kept
      rw [kept]
    | error e =>
      have omitted := (mem_omitted_read_iff listed).2 refused
      have any : ((read image header limit).omitted.any fun omission => omission.index == id) =
          true := List.any_eq_true.2 ⟨_, omitted, beq_self_eq_true id⟩
      rw [textOfId?, if_pos any] at kept
      cases kept
  · intro accepted
    rw [accepted] at listing
    exact textOfId?_ofEntries listing

/-- The offset of an id, computed in 64 bits, is what it is as a number. -/
lemma toNat_idOffset_eq {header : Header} {id} (listed : id < header.stringIds.count.toNat) :
    (header.stringIds.offset.toUInt64 + 4 * UInt64.ofNat id).toNat =
      header.stringIds.offset.toNat + 4 * id := by
  have start := header.stringIds.offset.toNat_lt
  have count := header.stringIds.count.toNat_lt
  have four : (4 : UInt64).toNat = 4 := rfl
  rw [UInt64.toNat_add, UInt64.toNat_mul, UInt32.toNat_toUInt64, UInt64.toNat_ofNat', four,
    Nat.mod_eq_of_lt (a := id) (by omega), Nat.mod_eq_of_lt (a := 4 * id) (by omega),
    Nat.mod_eq_of_lt (by omega)]

/-- The offsets at and behind a text, computed in 64 bits, are what they are as numbers. -/
lemma toNat_textOffset_eq (offset units : UInt32) {width : Nat} (narrow : width ≤ 5) :
    (offset.toUInt64 + UInt64.ofNat width).toNat = offset.toNat + width ∧
    (offset.toUInt64 + UInt64.ofNat width + units.toUInt64).toNat =
      offset.toNat + width + units.toNat := by
  have start := offset.toNat_lt
  have count := units.toNat_lt
  have behindLength : (offset.toUInt64 + UInt64.ofNat width).toNat = offset.toNat + width := by
    rw [UInt64.toNat_add, UInt32.toNat_toUInt64, UInt64.toNat_ofNat',
      Nat.mod_eq_of_lt (a := width) (by omega), Nat.mod_eq_of_lt (by omega)]
  refine ⟨behindLength, ?_⟩
  rw [UInt64.toNat_add, behindLength, UInt32.toNat_toUInt64, Nat.mod_eq_of_lt (by omega)]

/-- Every string id of an image whose header is accepted is a word of the image, and what comes of
it is the outcome that the image has at that offset: it is read to the text, or omitted for the
first reason that applies. A text that is declared to go on behind the end of the image could not
have been read, what is behind a length field that is read always lies in the image, and no offset
on the way needs more than 64 bits. -/
theorem entry_eq_iff_outcome {image : Bytes} {header : Header} (limit : Nat) {id : Nat}
    (parsed : Header.parse image = .ok header) (listed : id < header.stringIds.count.toNat) :
    ∃ offset : UInt32, image.HasWord (header.stringIds.offset.toNat + 4 * id) offset ∧
      (∀ outcome, entry image header limit id = outcome ↔
        TextOutcome image limit offset.toNat outcome) ∧
      (∀ text, (read image header limit).textOfId? id = some text ↔
        TextOutcome image limit offset.toNat (.ok text)) ∧
      (∀ e, ⟨id, e⟩ ∈ (read image header limit).omitted ↔
        TextOutcome image limit offset.toNat (.error e)) ∧
      (∀ units width, Uleb128.read image offset.toNat = .ok (units, width) →
        (image.size < offset.toNat + width + units.toNat →
          ∀ text, Mutf8.decode (image.toList.drop (offset.toNat + width)) units.toNat ≠ .ok text) ∧
        image.tailAt (offset.toNat + width) =
          .ok (image.extract (offset.toNat + width) image.size) ∧
        (offset.toUInt64 + UInt64.ofNat width + units.toUInt64).toNat =
          offset.toNat + width + units.toNat) ∧
      (header.stringIds.offset.toUInt64 + 4 * UInt64.ofNat id).toNat =
        header.stringIds.offset.toNat + 4 * id ∧
      ∀ width ≤ Uleb128.maxWidth,
        (offset.toUInt64 + UInt64.ofNat width).toNat = offset.toNat + width := by
  obtain ⟨offset, has⟩ := exists_hasWord_of_parse parsed listed
  have outcome (outcome) : entry image header limit id = outcome ↔
      TextOutcome image limit offset.toNat outcome := by
    rw [entry_of_hasWord limit has, textAt_eq_iff_outcome]
  refine ⟨offset, has, outcome, ?_, ?_, ?_, toNat_idOffset_eq listed, ?_⟩
  · intro text
    rw [textOfId?_read_iff listed, outcome]
  · intro e
    rw [mem_omitted_read_iff listed, outcome]
  · intro units width length
    obtain ⟨-, narrow, inside⟩ := Uleb128.width_of_read length
    refine ⟨?_, ?_, (toNat_textOffset_eq offset units narrow).2⟩
    · intro outside text accepted
      have room := le_size_of_decode accepted inside
      omega
    · rw [Bytes.tailAt, if_pos inside]
  · intro width narrow
    exact (toNat_textOffset_eq offset 0 narrow).1

/-- An image of version 41 that ends before its container fields. Its first id is the last word of
the header and points to the text `a`; its second id points to the first one, which is read as a
length there. -/
def shortImage : Bytes :=
  (magicOf 41 ++ List.replicate 28 0 ++ [0x78, 0, 0, 0] ++ List.replicate 16 0
    ++ [2, 0, 0, 0, 0x6C, 0, 0, 0] ++ List.replicate 44 0 ++ [0x74, 0, 0, 0] ++ [0x6C, 0, 0, 0]
    ++ [1, 0x61]).toArray

/-- The header of that image. -/
def shortHeader : Header where
  version := .v41
  checksum := 0
  signature := List.replicate 20 0
  fileSize := 0
  headerSize := 0x78
  endianTag := 0
  linkSize := 0
  linkOffset := 0
  mapOffset := 0
  stringIds := ⟨2, 0x6C⟩
  typeIds := ⟨0, 0⟩
  protoIds := ⟨0, 0⟩
  fieldIds := ⟨0, 0⟩
  methodIds := ⟨0, 0⟩
  classDefs := ⟨0, 0⟩
  data := ⟨0, 0x74⟩

/-- A text that ends with the image is read, and one that claims to begin in the header is omitted
for its length. -/
theorem entry_of_short_image :
    Header.parse shortImage = .ok shortHeader ∧
    (read shortImage shortHeader 100).textOfId? 0 = some "a" ∧
    ⟨1, .stringTooLong 116 100⟩ ∈ (read shortImage shortHeader 100).omitted := by
  have parsed : Header.parse shortImage = .ok shortHeader := by decide +kernel
  obtain ⟨first, has, -, texts, -⟩ :=
    entry_eq_iff_outcome 100 parsed (show 0 < shortHeader.stringIds.count.toNat by decide)
  obtain ⟨second, has', -, -, omitted, -⟩ :=
    entry_eq_iff_outcome 100 parsed (show 1 < shortHeader.stringIds.count.toNat by decide)
  obtain rfl : first = 0x74 :=
    has.unique (Bytes.hasWord_iff.2 ⟨by decide +kernel, by decide +kernel⟩)
  obtain rfl : second = 0x6C :=
    has'.unique (Bytes.hasWord_iff.2 ⟨by decide +kernel, by decide +kernel⟩)
  have length : Uleb128.read shortImage 0x74 = .ok (1, 1) := by decide +kernel
  have length' : Uleb128.read shortImage 0x6C = .ok (116, 1) := by decide +kernel
  have letter : Mutf8.Begins (shortImage.toList.drop (0x74 + 1)) "a" :=
    (Mutf8.decode_eq_ok_iff.1 (by decide +kernel : Mutf8.decode _ 1 = .ok "a")).2
  refine ⟨parsed, (texts _).2 ?_, (omitted _).2 (.tooLong length' (by decide))⟩
  exact .text length (by decide) (by decide +kernel) letter

end StringPool

end DexTriage
