import Mathlib
import DexTriage.Image.Draft
import DexTriage.Proofs.Blueprint

/-!
# Images are drawn in place

A row of words that lies in a buffer keeps its place while words of it are replaced
(`Bytes.setWords?_of_row`), and that is what drawing an image does twice: with the ids, which lie
behind the room for the header (`Blueprint.setWords?_idWords`), and with the fields of the header
behind the signature (`Blueprint.setWords?_headerWords`). So no write leaves the buffer, and what is
drawn is the image of the blueprint (`Blueprint.draw?_eq`).
-/

namespace DexTriage

namespace Bytes

variable {data : Bytes} {before behind : List UInt8} {start : Nat} {words : List UInt32}

/-- A stretch is replaced by another one of its length. -/
lemma replace?_of_toList {old stop} (patch) (whole : data.toList = before ++ (old ++ behind))
    (first : before.length = start) (last : start + old.length = stop)
    (length : patch.length = old.length) :
    data.replace? start stop patch = some (before ++ (patch ++ behind)).toArray := by
  have inside : start + patch.length ≤ data.size := by
    rw [← Array.length_toList, whole, List.length_append, List.length_append]
    omega
  rw [replace?, if_pos ⟨by omega, by omega, by omega⟩, Option.some.injEq]
  apply Array.toList_inj.1
  rw [toList_overwrite inside, whole, ← List.drop_drop, List.take_left' first,
    List.drop_left' first, List.drop_left' length.symm, List.append_assoc]

/-- A word is replaced where four bytes are. -/
lemma setWord?_of_toList {old} (word) (whole : data.toList = before ++ (old ++ behind))
    (first : before.length = start) (length : old.length = 4) :
    data.setWord? start word = some (before ++ (ofWord word ++ behind)).toArray := by
  have inside : start + 4 ≤ data.size := by
    rw [← Array.length_toList, whole, List.length_append, List.length_append]
    omega
  have patched := replace?_of_toList (ofWord word) whole first rfl
    ((length_ofWord word).trans length.symm)
  rw [replace?, length, if_pos ⟨by omega, inside, by rw [length_ofWord]; omega⟩] at patched
  rw [setWord?, if_pos inside, patched]

/-- A word of a row is replaced in its place. -/
lemma setWord?_of_row {slot} (word) (whole : data.toList = before ++ (words.flatMap ofWord ++ behind))
    (first : before.length = start) (listed : slot < words.length) :
    data.setWord? (start + 4 * slot) word =
      some (before ++ ((words.set slot word).flatMap ofWord ++ behind)).toArray := by
  obtain ⟨front, old, back, rfl, rfl⟩ : ∃ front old back,
      words = front ++ old :: back ∧ front.length = slot := by
    refine ⟨words.take slot, words[slot], words.drop (slot + 1), ?_, ?_⟩
    · rw [List.getElem_cons_drop, List.take_append_drop]
    · rw [List.length_take]
      omega
  have place : (before ++ front.flatMap ofWord).length = start + 4 * front.length := by
    rw [List.length_append, length_flatMap_ofWord, first]
  have whole' : data.toList =
      (before ++ front.flatMap ofWord) ++ (ofWord old ++ (back.flatMap ofWord ++ behind)) := by
    rw [whole, List.flatMap_append, List.flatMap_cons]
    simp only [List.append_assoc]
  have row : (front ++ old :: back).set front.length word = front ++ word :: back := by
    rw [List.set_append_right _ _ (Nat.le_refl _), Nat.sub_self, List.set_cons_zero]
  rw [setWord?_of_toList word whole' place (length_ofWord old), row, List.flatMap_append,
    List.flatMap_cons]
  simp only [List.append_assoc]

/-- A row of words from `start` on, after words at offsets have been replaced. -/
def rowAfter (start : Nat) (words : List UInt32) (patches : List (Nat × UInt32)) : List UInt32 :=
  patches.foldl (fun words (offset, word) => words.set ((offset - start) / 4) word) words

/-- The first of the words is replaced before the others. -/
lemma setWords?_cons (data : Bytes) (offset word patches) :
    data.setWords? ((offset, word) :: patches) =
      (data.setWord? offset word).bind fun data => data.setWords? patches := rfl

/-- The first of the words is replaced before the others. -/
lemma rowAfter_cons (start words offset word patches) :
    rowAfter start words ((offset, word) :: patches) =
      rowAfter start (words.set ((offset - start) / 4) word) patches := rfl

/-- Words of a row are replaced in their places, one after the other. -/
lemma setWords?_of_row {patches} (whole : data.toList = before ++ (words.flatMap ofWord ++ behind))
    (first : before.length = start)
    (inRow : ∀ patch ∈ patches, ∃ slot < words.length, patch.1 = start + 4 * slot) :
    data.setWords? patches =
      some (before ++ ((rowAfter start words patches).flatMap ofWord ++ behind)).toArray := by
  -- on the patches; each of them leaves a row of as many words
  induction patches generalizing data words with
  | nil =>
    rw [rowAfter, List.foldl_nil, ← whole]
    rfl
  | cons patch patches ih =>
    obtain ⟨offset, word⟩ := patch
    obtain ⟨slot, listed, rfl⟩ : ∃ slot < words.length, offset = start + 4 * slot :=
      inRow _ List.mem_cons_self
    have place : (start + 4 * slot - start) / 4 = slot := by omega
    rw [setWords?_cons, setWord?_of_row word whole first listed, Option.bind_some, rowAfter_cons,
      place]
    apply ih rfl
    intro patch mem
    rw [List.length_set]
    exact inRow patch (List.mem_cons_of_mem _ mem)

/-- Words that are stored one after the other replace the row, from one of its words on. -/
lemma rowAfter_zipIdx (start : Nat) (done words : List UInt32) :
    rowAfter start (done ++ List.replicate words.length 0)
        ((words.zipIdx done.length).map fun (word, index) => (start + 4 * index, word)) =
      done ++ words := by
  induction words generalizing done with
  | nil => rfl
  | cons word words ih =>
    have place : (start + 4 * done.length - start) / 4 = done.length := by omega
    have next := ih (done ++ [word])
    rw [List.length_append, List.length_singleton, List.append_assoc, List.singleton_append,
      List.append_assoc, List.singleton_append] at next
    rw [List.zipIdx_cons, List.map_cons, rowAfter_cons, place, List.length_cons,
      List.replicate_succ, List.set_append_right _ _ (Nat.le_refl _), Nat.sub_self,
      List.set_cons_zero, next]

/-- As many zeros are appended as there are up to a multiple of four bytes. -/
lemma toList_fillUp (data : Bytes) :
    data.fillUp.toList = data.toList ++ List.replicate ((4 - data.size % 4) % 4) 0 := by
  fun_induction fillUp data with
  | case1 data full =>
    rw [full]
    exact (List.append_nil _).symm
  | case2 data partly ih =>
    have zeros : (4 - data.size % 4) % 4 = (4 - (data.size + 1) % 4) % 4 + 1 := by omega
    rw [ih, Array.size_push, Array.toList_push, List.append_assoc, zeros, List.replicate_succ]
    rfl

end Bytes

/-- Items are appended one after the other, each with its id. -/
lemma Draft.foldl_add (draft : Draft) (items : List StringItem) :
    items.foldl add draft =
      ⟨draft.bytes ++ (items.flatMap StringItem.bytes).toArray,
        draft.ids ++ StringItem.ids draft.bytes.size items⟩ := by
  induction items generalizing draft with
  | nil => simp [StringItem.ids]
  | cons item items ih =>
    rw [List.foldl_cons, ih, add, StringItem.ids, List.flatMap_cons]
    simp [Array.append_assoc]

namespace Blueprint

open Bytes

variable (blueprint : Blueprint)

/-- As many zero words are four times as many zero bytes. -/
lemma flatMap_replicate_zero (count : Nat) :
    (List.replicate count (0 : UInt32)).flatMap ofWord = List.replicate (4 * count) 0 := by
  induction count with
  | zero => rfl
  | succ count ih =>
    have zero : ofWord 0 = List.replicate 4 0 := by decide
    rw [List.replicate_succ, List.flatMap_cons, ih, zero, ← List.replicate_add]
    congr 1
    omega

/-- A draft is room for the header, room for the ids, and what is behind the ids. -/
lemma toList_draft :
    blueprint.draft.bytes.fillUp.toList = List.replicate blueprint.headerSize 0 ++
      ((List.replicate blueprint.items.length (0 : UInt32)).flatMap ofWord ++ blueprint.body) := by
  have size : blueprint.draft.bytes.size =
      blueprint.dataStart + (blueprint.items.flatMap StringItem.bytes).length := by
    rw [draft, Draft.foldl_add, Array.size_append, Array.size_replicate, List.size_toArray]
  have bytes : blueprint.draft.bytes.toList =
      List.replicate blueprint.dataStart 0 ++ blueprint.items.flatMap StringItem.bytes := by
    rw [draft, Draft.foldl_add, Array.toList_append, Array.toList_replicate]
  rw [toList_fillUp, size, bytes, flatMap_replicate_zero, body, dataStart, List.replicate_add]
  simp only [List.append_assoc]

/-- The ids of a draft are those of the items behind the room for header and ids. -/
lemma ids_draft : blueprint.draft.ids = StringItem.ids blueprint.dataStart blueprint.items := by
  rw [draft, Draft.foldl_add, List.nil_append, Array.size_replicate]

/-- The image without its header. -/
def headless : Bytes :=
  (List.replicate blueprint.headerSize 0 ++ blueprint.payload).toArray

/-- Behind the room for the header, the ids are stored in the room for them. -/
lemma setWords?_idWords :
    blueprint.draft.bytes.fillUp.setWords? (blueprint.idWords blueprint.draft.ids) =
      some blueprint.headless := by
  have length : blueprint.draft.ids.length = blueprint.items.length := by
    rw [ids_draft, StringItem.length_ids]
  have stored : rowAfter blueprint.headerSize (List.replicate blueprint.items.length 0)
      (blueprint.idWords blueprint.draft.ids) = blueprint.draft.ids := by
    rw [← length]
    exact rowAfter_zipIdx blueprint.headerSize [] blueprint.draft.ids
  rw [setWords?_of_row blueprint.toList_draft List.length_replicate, stored, headless, payload,
    ids_draft]
  · intro patch mem
    obtain ⟨⟨id, index⟩, listed, rfl⟩ := List.mem_map.1 mem
    have within := List.snd_lt_of_mem_zipIdx listed
    rw [Nat.add_zero, length] at within
    exact ⟨index, by rwa [List.length_replicate], rfl⟩

/-- The words of the header behind the signature. -/
def fieldWords : List UInt32 :=
  [blueprint.header.fileSize, blueprint.header.headerSize, blueprint.header.endianTag, 0, 0, 0,
    blueprint.header.stringIds.count, blueprint.header.stringIds.offset, 0, 0, 0, 0, 0, 0, 0, 0, 0,
    0, blueprint.header.data.count, blueprint.header.data.offset] ++
    if blueprint.container then [blueprint.header.containerSize, 0] else []

/-- Behind the signature, the header is a row of words. -/
lemma behindSignature_header :
    blueprint.header.behindSignature = blueprint.fieldWords.flatMap ofWord := by
  rw [Header.behindSignature, Header.containerBytes, headerSize_header, headerSize, fieldWords]
  by_cases container : blueprint.container = true
  · simp [container, Header.extentBytes, header, containerHeaderWidth]
  · simp [container, Header.extentBytes, header, containerHeaderWidth, headerWidth]

/-- The header of a blueprint that is small enough says how much data there is. -/
lemma count_data_header (small : blueprint.size < 2 ^ 32) :
    blueprint.header.data.count.toNat = blueprint.body.length :=
  UInt32.toNat_ofNat_of_lt' (by rw [UInt32.size]; rw [size] at small; omega)

/-- What is stored in an image that is small enough are the fields of the header. -/
lemma headerWords_eq (small : blueprint.size < 2 ^ 32) :
    blueprint.headerWords blueprint.size =
      [(32, blueprint.header.fileSize), (36, blueprint.header.headerSize),
        (40, blueprint.header.endianTag), (56, blueprint.header.stringIds.count),
        (60, blueprint.header.stringIds.offset), (104, blueprint.header.data.count),
        (108, blueprint.header.data.offset)] ++
        if blueprint.container then [(112, blueprint.header.containerSize), (116, 0)] else [] := by
  have dataSize : blueprint.size - blueprint.dataStart = blueprint.body.length := by
    rw [size]
    omega
  have noData : UInt32.ofNat blueprint.body.length = 0 ↔ blueprint.body.isEmpty = true := by
    have count : (UInt32.ofNat blueprint.body.length).toNat = blueprint.body.length :=
      blueprint.count_data_header small
    rw [← UInt32.toNat_inj, count, List.isEmpty_iff_length_eq_zero]
    rfl
  have noIds : blueprint.items.length = 0 ↔ blueprint.items.isEmpty = true :=
    List.isEmpty_iff_length_eq_zero.symm
  simp only [headerWords, dataSize, noData, noIds]
  rfl

/-- Storing the fields of the header in a row of zeros makes the row that they are. -/
lemma rowAfter_headerWords (small : blueprint.size < 2 ^ 32) :
    rowAfter 32 (List.replicate ((blueprint.headerSize - 32) / 4) 0)
      (blueprint.headerWords blueprint.size) = blueprint.fieldWords := by
  rw [headerWords_eq blueprint small, headerSize, fieldWords]
  by_cases container : blueprint.container = true
  · simp only [if_pos container]
    rfl
  · simp only [if_neg container]
    rfl

/-- The fields of the header lie in a row of words behind the signature. -/
lemma headerWords_inRow {size patch} (mem : patch ∈ blueprint.headerWords size) :
    ∃ slot < (blueprint.headerSize - 32) / 4, patch.1 = 32 + 4 * slot := by
  have offset : patch.1 ∈ (blueprint.headerWords size).map Prod.fst := List.mem_map_of_mem mem
  rw [headerWords, List.map_append] at offset
  rw [headerSize]
  by_cases container : blueprint.container = true
  · have rows : ∀ offset ∈ [32, 36, 40, 56, 60, 104, 108, 112, 116],
        ∃ slot < 22, offset = 32 + 4 * slot := by decide
    simp only [if_pos container] at offset ⊢
    exact rows _ offset
  · have rows : ∀ offset ∈ [32, 36, 40, 56, 60, 104, 108], ∃ slot < 20, offset = 32 + 4 * slot := by
      decide
    simp only [if_neg container] at offset ⊢
    exact rows _ offset

/-- The image with its magic, and room for the fields of the header. -/
def named : Bytes :=
  (blueprint.version.magic ++ List.replicate 24 0 ++
    ((List.replicate ((blueprint.headerSize - 32) / 4) (0 : UInt32)).flatMap ofWord ++
      blueprint.payload)).toArray

/-- The magic is stored at the beginning of the room for the header. -/
lemma replace?_magic :
    blueprint.headless.replace? 0 8 blueprint.version.magic = some blueprint.named := by
  have room : List.replicate blueprint.headerSize (0 : UInt8) = List.replicate 8 0 ++
      (List.replicate 24 0 ++
        (List.replicate ((blueprint.headerSize - 32) / 4) (0 : UInt32)).flatMap ofWord) := by
    have cases := blueprint.headerSize_cases
    rw [flatMap_replicate_zero, ← List.replicate_add, ← List.replicate_add]
    congr 1
    omega
  have whole : blueprint.headless.toList = [] ++ (List.replicate 8 0 ++ (List.replicate 24 0 ++
      ((List.replicate ((blueprint.headerSize - 32) / 4) (0 : UInt32)).flatMap ofWord ++
        blueprint.payload))) := by
    rw [headless, room]
    simp only [List.append_assoc, List.nil_append]
  have first : ([] : List UInt8).length = 0 := rfl
  have last : 0 + (List.replicate 8 (0 : UInt8)).length = 8 := rfl
  rw [replace?_of_toList blueprint.version.magic whole first last blueprint.version.length_magic,
    named]
  simp only [List.append_assoc, List.nil_append]

/-- The image is as long as its header and what is behind that. -/
lemma size_eq : blueprint.size = blueprint.headerSize + blueprint.payload.length := by
  rw [payload, List.length_append, length_flatMap_ofWord, StringItem.length_ids, size, dataStart]
  omega

/-- The size does not change while the header is stored. -/
lemma size_named : blueprint.named.size = blueprint.size := by
  have cases := blueprint.headerSize_cases
  rw [named, List.size_toArray, List.length_append, List.length_append, List.length_append,
    length_flatMap_ofWord, List.length_replicate, List.length_replicate, Version.length_magic,
    size_eq]
  omega

/-- The image before it is signed has its fields in the room for them. -/
lemma unsigned_eq :
    blueprint.unsigned = (blueprint.version.magic ++ List.replicate 24 0 ++
      (blueprint.fieldWords.flatMap ofWord ++ blueprint.payload)).toArray := by
  have unsealed : ofWord 0 ++ List.replicate 20 0 = List.replicate 24 0 := by decide
  rw [unsigned, Header.encode_eq, ← List.append_assoc (ofWord blueprint.header.checksum),
    show ofWord blueprint.header.checksum ++ blueprint.header.signature = _ from unsealed,
    behindSignature_header]
  simp only [List.append_assoc]
  rfl

/-- The fields of the header are stored in the room for them. -/
lemma setWords?_headerWords (small : blueprint.size < 2 ^ 32) :
    blueprint.named.setWords? (blueprint.headerWords blueprint.size) =
      some blueprint.unsigned := by
  have whole : blueprint.named.toList = blueprint.version.magic ++ List.replicate 24 0 ++
      ((List.replicate ((blueprint.headerSize - 32) / 4) (0 : UInt32)).flatMap ofWord ++
        blueprint.payload) := rfl
  have first : (blueprint.version.magic ++ List.replicate 24 0).length = 32 := by
    rw [List.length_append, Version.length_magic, List.length_replicate]
  rw [setWords?_of_row whole first, rowAfter_headerWords blueprint small, unsigned_eq]
  intro patch mem
  rw [List.length_replicate]
  exact blueprint.headerWords_inRow mem

/-- There is enough of the image to be signed. -/
lemma le_size_unsigned : 32 ≤ blueprint.unsigned.size := by
  have cases := blueprint.headerSize_cases
  have size : blueprint.unsigned.size = blueprint.size := by
    rw [← size_image, image_eq_sign, size_sign]
  rw [size, size_eq]
  omega

/-- The seal is stored in the room for it, the signature before the checksum. -/
lemma sign_eq {image : Bytes} (inside : 32 ≤ image.size) :
    ((image.replace? 12 32 (signatureOf image)).bind fun image =>
      image.setWord? 8 (checksumOf image)) = some (sign image) := by
  rw [replace?, if_pos ⟨by decide, inside, length_signatureOf image⟩, Option.bind_some, setWord?,
    if_pos (by rw [size_overwrite]; omega), sign]

/-- No write leaves the buffer, and the image that is drawn is that of the blueprint. -/
lemma draw?_eq (small : blueprint.size < 2 ^ 32) : blueprint.draw? = some blueprint.image := by
  rw [draw?, Option.bind_eq_bind, setWords?_idWords, Option.bind_some, replace?_magic,
    Option.bind_some, size_named, setWords?_headerWords blueprint small, Option.bind_some,
    sign_eq blueprint.le_size_unsigned, image_eq_sign]

end Blueprint

end DexTriage
