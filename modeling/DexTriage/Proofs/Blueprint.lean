import Mathlib
import DexTriage.Image
import DexTriage.Image.Blueprint
import DexTriage.Proofs.Header.Encode
import DexTriage.Proofs.Header.Outcome
import DexTriage.Proofs.Mutf8.Encode
import DexTriage.Proofs.Seal
import DexTriage.Proofs.StringPool
import DexTriage.Proofs.Uleb128

/-!
# Images of blueprints are read back

An image of a blueprint is a header, the ids and the items one after the other (`image_eq`): the
seal that is stored last changes only the checksum and the signature of the header. So the header
is read back with all of its tables in place (`parse_image`), every id is the offset of its item
(`ids_eq`), and an item that is a text is read as that text (`textAt_of_text`), whatever the other
items are.
-/

namespace DexTriage

/-- The items that a step adds. -/
def BlueprintStep.appended : BlueprintStep → List StringItem
  | .item one => [one]
  | .items several => several
  | _ => []

namespace StringItem

/-- There is one id for each item. -/
@[simp] lemma length_ids (start items) : (ids start items).length = items.length := by
  induction items generalizing start with
  | nil => rfl
  | cons item items ih => simp [ids, ih]

/-- The id of an item goes by the items before it. -/
lemma ids_eq (start : Nat) (before item after) :
    ∃ later, ids start (before ++ item :: after) =
      ids start before ++ item.id (start + (before.flatMap bytes).length) :: later := by
  induction before generalizing start with
  | nil => exact ⟨_, by simp [ids]; rfl⟩
  | cons first before ih =>
    obtain ⟨later, eq⟩ := ih (start + first.bytes.length)
    refine ⟨later, ?_⟩
    rw [List.cons_append, ids, eq, ids, List.flatMap_cons, List.length_append, Nat.add_assoc]
    rfl

end StringItem

/-- Words take four bytes each. -/
lemma length_flatMap_ofWord (words : List UInt32) :
    (words.flatMap Bytes.ofWord).length = 4 * words.length := by
  induction words with
  | nil => rfl
  | cons word words ih =>
    rw [List.flatMap_cons, List.length_append, Bytes.length_ofWord, ih, List.length_cons]
    omega

/-- The word at the head of what is behind an offset is the word at the offset. -/
lemma Bytes.wordAt_eq_ok {data : Bytes} {offset word rest}
    (behind : data.toList.drop offset = ofWord word ++ rest) : data.wordAt offset = .ok word := by
  have inside : offset + 4 ≤ data.size := by
    have length := congrArg List.length behind
    rw [List.length_drop, Array.length_toList, List.length_append, length_ofWord] at length
    omega
  rw [wordAt, numberAt, if_pos inside, window_eq, behind, List.take_left' (length_ofWord word),
    Except.map, littleEndian_ofWord]

/-- A text that was written is read, unless it is longer than the limit, whatever is behind it. -/
lemma textAt_of_text {image : Bytes} {offset text rest} (limit) (small : length16 text < 2 ^ 32)
    (behind : image.toList.drop offset = (StringItem.text text).bytes ++ rest) :
    textAt image limit offset =
      if length16 text ≤ limit then .ok text
      else .error (.stringTooLong (length16 text) limit) := by
  have units : (UInt32.ofNat (length16 text)).toNat = length16 text :=
    UInt32.toNat_ofNat_of_lt' small
  rw [StringItem.bytes, List.append_assoc, List.append_assoc] at behind
  have start : image.toList.drop (offset +
      (Uleb128.encode (UInt32.ofNat (length16 text))).length) =
        Mutf8.encode text ++ ([0] ++ rest) := by
    rw [← List.drop_drop, behind, List.drop_left]
  obtain ⟨least, most⟩ := Mutf8.length_encode text
  have inside : offset + (Uleb128.encode (UInt32.ofNat (length16 text))).length + length16 text ≤
      image.size := by
    have length := congrArg List.length start
    rw [List.length_drop, Array.length_toList, List.length_append, List.length_append,
      List.length_singleton] at length
    omega
  have decoded : Mutf8.decode (image.window
      (offset + (Uleb128.encode (UInt32.ofNat (length16 text))).length)
        (maxUnitWidth * length16 text)) (length16 text) = .ok text := by
    rw [Bytes.window_eq, start, maxUnitWidth, List.take_append, List.take_of_length_le most]
    exact Mutf8.decode_eq_ok_iff.2 ⟨rfl, Mutf8.begins_encode_append _ _⟩
  rw [textAt_of_read limit (Uleb128.read_encode behind), units, decoded]
  by_cases short : length16 text ≤ limit
  · rw [if_neg (by omega), if_neg (by omega), if_pos short]
  · rw [if_pos (by omega), if_neg short]

namespace Blueprint

open StringItem

/-- The items of a blueprint are those that its steps added, in order. -/
lemma items_foldl (blueprint : Blueprint) (steps : List BlueprintStep) :
    (steps.foldl step blueprint).items =
      blueprint.items ++ steps.flatMap BlueprintStep.appended := by
  induction steps generalizing blueprint with
  | nil => simp
  | cons first steps ih =>
    rw [List.foldl_cons, ih, List.flatMap_cons, ← List.append_assoc]
    congr 1
    cases first <;> simp [step, BlueprintStep.appended]

/-- The items of a blueprint drawn up from nothing. -/
lemma items_ofSteps (steps : List BlueprintStep) :
    (ofSteps steps).items = steps.flatMap BlueprintStep.appended :=
  items_foldl {} steps

/-- What is behind the header of the image. -/
def payload (blueprint : Blueprint) : List UInt8 :=
  (ids blueprint.dataStart blueprint.items).flatMap Bytes.ofWord ++ blueprint.body

/-- The image before it is signed. -/
def unsigned (blueprint : Blueprint) : Bytes :=
  (blueprint.header.encode ++ blueprint.payload).toArray

/-- The header of the image, signed. -/
def signedHeader (blueprint : Blueprint) : Header :=
  { blueprint.header with
    signature := signatureOf blueprint.unsigned
    checksum := checksumOf (blueprint.unsigned.overwrite 12 (signatureOf blueprint.unsigned)) }

/-- The size of a header is either of two. -/
lemma headerSize_cases (blueprint : Blueprint) :
    blueprint.headerSize = 0x70 ∨ blueprint.headerSize = 0x78 := by
  rw [headerSize]
  split
  · exact .inr rfl
  · exact .inl rfl

/-- The header declares its size. -/
lemma headerSize_header (blueprint : Blueprint) :
    blueprint.header.headerSize.toNat = blueprint.headerSize := by
  have small := blueprint.headerSize_cases
  exact UInt32.toNat_ofNat_of_lt' (by rw [UInt32.size]; omega)

/-- The written header has the size that it declares. -/
lemma length_signedHeader (blueprint : Blueprint) :
    blueprint.signedHeader.encode.length = blueprint.headerSize := by
  rw [Header.length_encode _ (length_signatureOf _), Header.containerBytes]
  have declared : blueprint.signedHeader.headerSize.toNat = blueprint.headerSize :=
    blueprint.headerSize_header
  have cases := blueprint.headerSize_cases
  rw [declared, containerHeaderWidth]
  split
  · rw [List.length_append, Bytes.length_ofWord, Bytes.length_ofWord]
    omega
  · rw [List.length_nil]
    omega

/-- The image is what it was before, signed. -/
lemma image_eq_sign (blueprint : Blueprint) : blueprint.image = sign blueprint.unsigned := by
  rw [image, unsigned, payload, List.append_assoc]

/-- The image is the signed header and everything behind it. -/
lemma image_eq (blueprint : Blueprint) :
    blueprint.image = (blueprint.signedHeader.encode ++ blueprint.payload).toArray := by
  have magic := blueprint.header.version.length_magic
  have unsealed : (Bytes.ofWord blueprint.header.checksum ++ blueprint.header.signature).length =
      24 := by
    rw [List.length_append, Bytes.length_ofWord]
    rfl
  have tail : blueprint.signedHeader.behindSignature = blueprint.header.behindSignature :=
    Header.behindSignature_withSeal _ _ _
  -- the seal lies between the magic and what is kept
  have whole : blueprint.unsigned.toList = blueprint.header.version.magic ++
      (Bytes.ofWord blueprint.header.checksum ++ blueprint.header.signature ++
        (blueprint.header.behindSignature ++ blueprint.payload)) := by
    rw [unsigned, Header.encode_eq]
    simp only [List.append_assoc]
  have inside : 32 ≤ blueprint.unsigned.size := by
    rw [← Array.length_toList, whole, List.length_append, List.length_append, magic, unsealed]
    omega
  apply Array.toList_inj.1
  rw [image_eq_sign, toList_sign inside, whole, List.take_left' magic, ← List.drop_drop (i := 24) (j := 8),
    List.drop_left' magic, List.drop_left' unsealed, Header.encode_eq, tail]
  simp only [List.append_assoc]
  rfl

/-- The size of the image. -/
lemma size_image (blueprint : Blueprint) : blueprint.image.size = blueprint.size := by
  rw [image_eq, List.size_toArray, List.length_append, length_signedHeader, payload,
    List.length_append, length_flatMap_ofWord, length_ids, size, dataStart]
  omega

/-- Where the ids and the data of the image are, and that there are no other tables. -/
lemma fits_header (blueprint : Blueprint) (small : blueprint.size < 2 ^ 32) (table) :
    blueprint.header.Fits blueprint.size table := by
  have total : blueprint.size =
      blueprint.headerSize + 4 * blueprint.items.length + blueprint.body.length := rfl
  have toNat {n : Nat} (le : n ≤ blueprint.size) : (UInt32.ofNat n).toNat = n :=
    UInt32.toNat_ofNat_of_lt' (by rw [UInt32.size]; omega)
  cases table with
  | stringIds =>
    right
    show (if blueprint.items.isEmpty then 0 else UInt32.ofNat blueprint.headerSize : UInt32).toNat +
      (UInt32.ofNat blueprint.items.length).toNat * 4 ≤ blueprint.size
    rw [toNat (by omega)]
    split
    · rw [UInt32.toNat_zero]
      omega
    · rw [toNat (by omega)]
      omega
  | data =>
    right
    show (if blueprint.body.isEmpty then 0 else UInt32.ofNat blueprint.dataStart : UInt32).toNat +
      (UInt32.ofNat blueprint.body.length).toNat * 1 ≤ blueprint.size
    rw [toNat (by omega)]
    split
    · rw [UInt32.toNat_zero]
      omega
    · rw [toNat (by rw [dataStart]; omega), dataStart]
      omega
  | _ => exact .inl rfl

/-- The header of the image is read back. -/
lemma parse_image (blueprint : Blueprint) (small : blueprint.size < 2 ^ 32) :
    Header.parse blueprint.image = .ok blueprint.signedHeader.asRead := by
  have declared : blueprint.signedHeader.headerSize.toNat = blueprint.headerSize :=
    blueprint.headerSize_header
  have cases := blueprint.headerSize_cases
  have read := Header.readChecked_encode blueprint.signedHeader (length_signatureOf _)
    (by rw [declared]; omega) blueprint.payload
  rw [← image_eq] at read
  rw [Header.parse_eq, read, ok_bind, size_image]
  apply Header.checkTables_of_fits
  intro table
  rw [Header.Fits, Header.extent_asRead, signedHeader, Header.extent_withSeal]
  exact blueprint.fits_header small table

/-- Behind the header of the image are the ids. -/
lemma drop_headerSize (blueprint : Blueprint) :
    blueprint.image.toList.drop blueprint.headerSize = blueprint.payload := by
  rw [image_eq, List.drop_left' blueprint.length_signedHeader]

/-- Behind the ids are the items. -/
lemma drop_dataStart (blueprint : Blueprint) :
    blueprint.image.toList.drop blueprint.dataStart = blueprint.body := by
  rw [dataStart, ← List.drop_drop, drop_headerSize, payload]
  apply List.drop_left'
  rw [length_flatMap_ofWord, length_ids]

/-- The id of an item is in its place, and the bytes of the item are where the id says. -/
lemma exists_offset (blueprint : Blueprint) {before item after}
    (items : blueprint.items = before ++ item :: after) :
    ∃ offset rest, offset ≤ blueprint.size ∧
      blueprint.image.wordAt (blueprint.headerSize + 4 * before.length) = .ok (item.id offset) ∧
      blueprint.image.toList.drop offset = item.bytes ++ rest := by
  obtain ⟨later, ids⟩ := ids_eq blueprint.dataStart before item after
  rw [← items] at ids
  have earlier : ((StringItem.ids blueprint.dataStart before).flatMap Bytes.ofWord).length =
      4 * before.length := by
    rw [length_flatMap_ofWord, length_ids]
  have word : blueprint.image.toList.drop (blueprint.headerSize + 4 * before.length) =
      Bytes.ofWord (item.id (blueprint.dataStart + (before.flatMap bytes).length)) ++
        (later.flatMap Bytes.ofWord ++ blueprint.body) := by
    rw [← List.drop_drop, drop_headerSize, payload, ids, List.flatMap_append, List.flatMap_cons,
      List.append_assoc, List.append_assoc, List.drop_left' earlier]
  obtain ⟨rest, body⟩ : ∃ rest, blueprint.body =
      before.flatMap bytes ++ (item.bytes ++ rest) := by
    rw [Blueprint.body, items, List.flatMap_append, List.flatMap_cons]
    simp only [List.append_assoc]
    exact ⟨_, rfl⟩
  refine ⟨blueprint.dataStart + (before.flatMap bytes).length, rest, ?_,
    Bytes.wordAt_eq_ok word, ?_⟩
  · rw [size, body, List.length_append]
    omega
  · rw [← List.drop_drop, drop_dataStart, body, List.drop_left]

/-- The extent of the ids is read back. -/
lemma stringIds_asRead (blueprint : Blueprint) :
    blueprint.signedHeader.asRead.stringIds = blueprint.header.stringIds :=
  (Header.extent_asRead _ .stringIds).trans (Header.extent_withSeal _ _ _ .stringIds)

/-- A text is no longer than the image that holds it. -/
lemma length16_le_size (blueprint : Blueprint) {offset text rest}
    (behind : blueprint.image.toList.drop offset = bytes (.text text) ++ rest) :
    length16 text ≤ blueprint.size := by
  obtain ⟨least, -⟩ := Mutf8.length_encode text
  have length := congrArg List.length behind
  rw [List.length_drop, Array.length_toList, size_image, List.length_append, bytes,
    List.length_append, List.length_append] at length
  omega

/-- The entry of a text is that text, unless it is longer than the limit. -/
lemma entry_of_text (blueprint : Blueprint) (small : blueprint.size < 2 ^ 32) (limit) {index text}
    (item : blueprint.items[index]? = some (.text text)) :
    StringPool.entry blueprint.image blueprint.signedHeader.asRead limit index =
      if length16 text ≤ limit then .ok text
      else .error (.stringTooLong (length16 text) limit) := by
  obtain ⟨inside, at_index⟩ := List.getElem?_eq_some_iff.1 item
  -- nothing is known of the items around it but how many are before it
  have items : blueprint.items =
      blueprint.items.take index ++ .text text :: blueprint.items.drop (index + 1) := by
    rw [← at_index, List.getElem_cons_drop, List.take_append_drop]
  have length : (blueprint.items.take index).length = index := by
    rw [List.length_take]
    omega
  obtain ⟨offset, rest, le, word, behind⟩ := blueprint.exists_offset items
  have some_item : blueprint.items.isEmpty = false := by
    rw [List.isEmpty_eq_false_iff, ← List.length_pos_iff]
    omega
  have start : blueprint.signedHeader.asRead.stringIds.offset.toNat = blueprint.headerSize := by
    have cases := blueprint.headerSize_cases
    rw [stringIds_asRead, header, some_item]
    exact UInt32.toNat_ofNat_of_lt' (by rw [UInt32.size]; omega)
  have value : (UInt32.ofNat offset).toNat = offset :=
    UInt32.toNat_ofNat_of_lt' (by rw [UInt32.size]; omega)
  have units := blueprint.length16_le_size behind
  rw [length] at word
  have id : (StringItem.text text).id offset = UInt32.ofNat offset := rfl
  rw [StringPool.entry, start, word, ok_bind, id, value]
  exact textAt_of_text limit (by omega) behind

/-- There is an entry for every item. -/
lemma count_asRead (blueprint : Blueprint) (small : blueprint.size < 2 ^ 32) :
    blueprint.signedHeader.asRead.stringIds.count.toNat = blueprint.items.length := by
  have total : blueprint.size =
      blueprint.headerSize + 4 * blueprint.items.length + blueprint.body.length := rfl
  rw [stringIds_asRead]
  exact UInt32.toNat_ofNat_of_lt' (by rw [UInt32.size]; omega)

/-- Every image that is small enough is read, and in it every id of a text is the text or, when
the text is longer than the limit, omitted for that, whatever the other items are. -/
theorem parse_image_of_steps (steps : List BlueprintStep) (limit : Nat)
    (small : (ofSteps steps).image.size < 2 ^ 32) :
    ∃ parsed, Image.parse (ofSteps steps).image limit = .ok parsed ∧
      parsed.header.stringIds.count.toNat = (steps.flatMap BlueprintStep.appended).length ∧
      ∀ index text, (steps.flatMap BlueprintStep.appended)[index]? = some (.text text) →
        (length16 text ≤ limit → parsed.pool.textOfId? index = some text) ∧
        (limit < length16 text →
          ⟨index, .stringTooLong (length16 text) limit⟩ ∈ parsed.pool.omitted) := by
  rw [size_image] at small
  have count := (ofSteps steps).count_asRead small
  refine ⟨⟨(ofSteps steps).signedHeader.asRead,
    (ofSteps steps).signedHeader.asRead.inconsistencies (ofSteps steps).image,
    StringPool.read (ofSteps steps).image (ofSteps steps).signedHeader.asRead limit⟩, ?_, ?_, ?_⟩
  · rw [Image.parse, (ofSteps steps).parse_image small]
    rfl
  · rw [← items_ofSteps]
    exact count
  · intro index text item
    rw [← items_ofSteps] at item
    have entry := (ofSteps steps).entry_of_text small limit item
    obtain ⟨inside, -⟩ := List.getElem?_eq_some_iff.1 item
    have listed :
        ((List.range (ofSteps steps).signedHeader.asRead.stringIds.count.toNat).map
          (StringPool.entry (ofSteps steps).image (ofSteps steps).signedHeader.asRead
            limit))[index]? =
        some (StringPool.entry (ofSteps steps).image (ofSteps steps).signedHeader.asRead limit
          index) := by
      rw [List.getElem?_map, List.getElem?_range (by omega)]
      rfl
    constructor
    · intro short
      rw [entry, if_pos short] at listed
      exact StringPool.textOfId?_ofEntries listed
    · intro long
      rw [entry, if_neg (by omega)] at listed
      exact StringPool.mem_omitted_iff.2 listed

/-- Between garbage and a dangling id, a short text is read and a long one is omitted. -/
theorem parse_image_of_text_and_garbage :
    ∃ parsed, Image.parse (ofSteps [.item (.text "é"), .item (.raw [0xFF]), .containerHeader,
        .item (.dangling 0xFFFFFFFF), .items [.text "abc"], .declaredSize 7]).image 2 =
          .ok parsed ∧
      parsed.header.stringIds.count.toNat = 4 ∧ parsed.pool.textOfId? 0 = some "é" ∧
      ⟨3, .stringTooLong 3 2⟩ ∈ parsed.pool.omitted := by
  obtain ⟨parsed, eq, count, texts⟩ := parse_image_of_steps [.item (.text "é"),
    .item (.raw [0xFF]), .containerHeader, .item (.dangling 0xFFFFFFFF), .items [.text "abc"],
    .declaredSize 7] 2 (by rw [size_image]; decide +kernel)
  have short := (texts 0 "é" rfl).1 (by decide)
  have long := (texts 3 "abc" rfl).2 (by decide)
  exact ⟨parsed, eq, count, short, long⟩

end Blueprint

end DexTriage
