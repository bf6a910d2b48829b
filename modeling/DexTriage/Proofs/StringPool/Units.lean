import Mathlib
import DexTriage.Image
import DexTriage.Proofs.Growth
import DexTriage.Proofs.Mutf8.Encode

/-!
# How much text an image can hold

Every code unit of a text takes a byte of the image at least, but string ids may point to the same
text or into one another, so that a byte may count for several of them. `StringPool.stretch` says
which bytes spell the text of an id, and `StringPool.sharing` how many ids a byte counts for. An
image holds no more code units than there are bytes, each taken as often as it is shared
(`Image.units_le_sharing`); two ids with one text are enough to hold more code units than there are
bytes (`Image.size_lt_units_of_repeated`).
-/

namespace DexTriage

namespace Mutf8

/-- The count of bytes that spell the first `count` code units. -/
def widthOf (bytes : List UInt8) : (count : Nat) → Nat
  | 0 => 0
  | count + 1 =>
    match unitAt 0 bytes with
    | .ok (_, width) => width + widthOf (bytes.drop width) count
    | .error _ => 0

/-- Spelled units take the bytes that spell them, whatever follows. -/
lemma widthOf_append {spelled units} (sp : Spells spelled units) (rest) :
    widthOf (spelled ++ rest) units.length = spelled.length := by
  induction sp with
  | nil => rfl
  | @cons spelled unit bytes units su _ ih =>
    rw [List.append_assoc, List.length_cons, widthOf, unitAt_append su]
    simp only [List.drop_left, ih, List.length_append]

end Mutf8

namespace StringPool

/-- The number of code units of all texts of a pool. -/
def units (pool : StringPool) : Nat :=
  (pool.strings.map length16).sum

/-- The positions of the bytes that spell the text of a string id; none if it is omitted. -/
def stretch (image : Bytes) (header : Header) (limit id : Nat) : Finset Nat :=
  match entry image header limit id with
  | .error _ => ∅
  | .ok text =>
    match Uleb128.read image (image.word (header.stringIds.offset.toNat + 4 * id)).toNat with
    | .error _ => ∅
    | .ok (_, width) =>
      let start := (image.word (header.stringIds.offset.toNat + 4 * id)).toNat + width
      Finset.Ico start (start + Mutf8.widthOf (image.toList.drop start) (length16 text))

/-- For how many string ids a byte counts. -/
def sharing (image : Bytes) (header : Header) (limit position : Nat) : Nat :=
  {id ∈ Finset.range header.stringIds.count.toNat | position ∈ stretch image header limit id}.card

/-- The bytes that spell the text of an id follow its length, lie in the image, and are at least as
many as the code units. -/
lemma stretch_of_text {image : Bytes} {header : Header} {limit id text}
    (parsed : Header.parse image = .ok header) (listed : id < header.stringIds.count.toNat)
    (read : entry image header limit id = .ok text) :
    ∃ offset units width count, image.HasWord (header.stringIds.offset.toNat + 4 * id) offset ∧
      Uleb128.read image offset.toNat = .ok (units, width) ∧
      stretch image header limit id =
        Finset.Ico (offset.toNat + width) (offset.toNat + width + count) ∧
      offset.toNat + width + count ≤ image.size ∧
      Mutf8.Spells (image.window (offset.toNat + width) count) (text.toList.flatMap units16) ∧
      length16 text ≤ count ∧ length16 text ≤ limit := by
  obtain ⟨offset, has⟩ := exists_hasWord_of_parse parsed listed
  obtain ⟨-, word⟩ := Bytes.hasWord_iff.1 has
  have out := read
  rw [entry_of_hasWord limit has, textAt_eq_iff_outcome] at out
  cases out with
  | @text units width _ length short eq begins =>
    obtain ⟨spelled, rest, behind, sp⟩ := begins
    obtain ⟨-, -, inside⟩ := Uleb128.width_of_read length
    have count : Mutf8.widthOf (image.toList.drop (offset.toNat + width)) (length16 text) =
        spelled.length := by
      rw [behind, length16, Mutf8.widthOf_append sp]
    have room : spelled.length ≤ image.size - (offset.toNat + width) := by
      rw [← Array.length_toList, ← List.length_drop, behind, List.length_append]
      exact Nat.le_add_right _ _
    have window : image.window (offset.toNat + width) spelled.length = spelled := by
      rw [Bytes.window_eq, behind, List.take_left]
    refine ⟨offset, units, width, spelled.length, has, length, ?_, by omega, ?_, sp.length_le, ?_⟩
    · simp only [stretch, read, word, length, count]
    · rw [window]
      exact sp
    · rw [← eq]
      exact short

/-- The bytes that count for an id lie in the image. -/
lemma stretch_subset {image : Bytes} {header : Header} {limit id}
    (parsed : Header.parse image = .ok header) (listed : id < header.stringIds.count.toNat) :
    stretch image header limit id ⊆ Finset.range image.size := by
  cases read : entry image header limit id with
  | error e => simp [stretch, read]
  | ok text =>
    obtain ⟨offset, units, width, count, -, -, eq, inside, -⟩ := stretch_of_text parsed listed read
    rw [eq, Finset.range_eq_Ico]
    exact Finset.Ico_subset_Ico (Nat.zero_le _) inside

/-- The number of code units of the text of an id, if it has one. -/
def unitsOf (image : Bytes) (header : Header) (limit id : Nat) : Nat :=
  (entry image header limit id).toOption.elim 0 length16

/-- The code units of a pool are those of its ids. -/
lemma units_read (image : Bytes) (header : Header) (limit) :
    (read image header limit).units =
      ∑ id ∈ Finset.range header.stringIds.count.toNat, unitsOf image header limit id := by
  show ((((List.range header.stringIds.count.toNat).map (entry image header limit)).filterMap
    Except.toOption).map length16).sum = _
  induction header.stringIds.count.toNat with
  | zero => rfl
  | succ count ih =>
    rw [Finset.sum_range_succ, ← ih, List.range_succ, List.map_append, List.filterMap_append,
      List.map_append, List.sum_append, List.map_singleton, unitsOf]
    cases entry image header limit count <;> rfl

variable {image : Bytes} {header : Header} {limit : Nat}

/-- The text of an id has no more code units than bytes count for the id. -/
lemma unitsOf_le_card {id} (parsed : Header.parse image = .ok header)
    (listed : id < header.stringIds.count.toNat) :
    unitsOf image header limit id ≤ (stretch image header limit id).card := by
  cases read : entry image header limit id with
  | error e => simp [unitsOf, read, Except.toOption]
  | ok text =>
    obtain ⟨offset, units, width, count, -, -, eq, -, -, enough, -⟩ :=
      stretch_of_text parsed listed read
    rw [eq, Nat.card_Ico, Nat.add_sub_cancel_left, unitsOf, read]
    exact enough

/-- The text of an id has no more code units than the limit allows and the image has bytes. -/
lemma unitsOf_le_min {id} (parsed : Header.parse image = .ok header)
    (listed : id < header.stringIds.count.toNat) :
    unitsOf image header limit id ≤ min limit image.size := by
  have inside : (stretch image header limit id).card ≤ (Finset.range image.size).card :=
    Finset.card_le_card (stretch_subset parsed listed)
  rw [Finset.card_range] at inside
  refine le_min ?_ ((unitsOf_le_card parsed listed).trans inside)
  cases read : entry image header limit id with
  | error e => simp [unitsOf, read, Except.toOption]
  | ok text =>
    obtain ⟨offset, units, width, count, -, -, -, -, -, -, short⟩ :=
      stretch_of_text parsed listed read
    rw [unitsOf, read]
    exact short

/-- The bytes that count for the ids are the bytes of the image, each as often as it is shared. -/
lemma sum_card_stretch (parsed : Header.parse image = .ok header) :
    ∑ id ∈ Finset.range header.stringIds.count.toNat, (stretch image header limit id).card =
      ∑ position ∈ Finset.range image.size, sharing image header limit position := by
  have inside {id} (mem : id ∈ Finset.range header.stringIds.count.toNat) :
      {position ∈ Finset.range image.size | position ∈ stretch image header limit id} =
        stretch image header limit id := by
    rw [Finset.filter_mem_eq_inter,
      Finset.inter_eq_right.2 (stretch_subset parsed (Finset.mem_range.1 mem))]
  calc ∑ id ∈ Finset.range header.stringIds.count.toNat, (stretch image header limit id).card
      = ∑ id ∈ Finset.range header.stringIds.count.toNat,
          {position ∈ Finset.range image.size | position ∈ stretch image header limit id}.card :=
        Finset.sum_congr rfl fun id mem => by rw [inside mem]
    _ = ∑ position ∈ Finset.range image.size, sharing image header limit position :=
        Finset.sum_card_bipartiteAbove_eq_sum_card_bipartiteBelow _

/-- Every string id takes four bytes of the image. -/
lemma count_le_size (parsed : Header.parse image = .ok header) :
    4 * header.stringIds.count.toNat ≤ image.size := by
  obtain ⟨-, -, fits⟩ := Header.laidOut_of_parse parsed
  obtain empty | inside := fits .stringIds
  · have none : header.stringIds.count.toNat = 0 := empty
    omega
  · have inside : header.stringIds.offset.toNat + header.stringIds.count.toNat * 4 ≤ image.size :=
      inside
    omega

end StringPool

namespace Image

open StringPool

/-- The code units of all texts of an image are at most its bytes, each taken as often as ids share
it; so they are at most as many as there are bytes if no two ids share one. A single text has no
more of them than the limit allows and the image has bytes, and every id takes four bytes. -/
theorem units_le_sharing {image : Bytes} {limit : Nat} {parsed : Image}
    (accepted : parse image limit = .ok parsed) :
    (∀ id text, parsed.pool.textOfId? id = some text →
      ∃ offset units width count,
        image.HasWord (parsed.header.stringIds.offset.toNat + 4 * id) offset ∧
        Uleb128.read image offset.toNat = .ok (units, width) ∧
        stretch image parsed.header limit id =
          Finset.Ico (offset.toNat + width) (offset.toNat + width + count) ∧
        offset.toNat + width + count ≤ image.size ∧
        Mutf8.Spells (image.window (offset.toNat + width) count) (text.toList.flatMap units16) ∧
        length16 text ≤ count ∧ length16 text ≤ limit) ∧
    (∀ most, (∀ position, sharing image parsed.header limit position ≤ most) →
      parsed.pool.units ≤ most * image.size) ∧
    parsed.pool.units ≤ parsed.header.stringIds.count.toNat * min limit image.size ∧
    4 * parsed.header.stringIds.count.toNat ≤ image.size := by
  obtain ⟨header, ok, rfl⟩ := parse_eq_ok_iff.1 accepted
  have acc := accounts_ofEntries header.stringIds.count.toNat (entry image header limit)
  refine ⟨fun id text kept => ?_, fun most shared => ?_, ?_, count_le_size ok⟩
  · have listed := acc.lt_of_textOfId? kept
    exact stretch_of_text ok listed ((textOfId?_read_iff listed).1 kept)
  · calc (read image header limit).units
        = ∑ id ∈ Finset.range header.stringIds.count.toNat, unitsOf image header limit id :=
          units_read image header limit
      _ ≤ ∑ id ∈ Finset.range header.stringIds.count.toNat,
            (stretch image header limit id).card :=
          Finset.sum_le_sum fun id mem => unitsOf_le_card ok (Finset.mem_range.1 mem)
      _ = ∑ position ∈ Finset.range image.size, sharing image header limit position :=
          sum_card_stretch ok
      _ ≤ ∑ position ∈ Finset.range image.size, most :=
          Finset.sum_le_sum fun position _ => shared position
      _ = most * image.size := by rw [Finset.sum_const, Finset.card_range, smul_eq_mul, mul_comm]
  · calc (read image header limit).units
        = ∑ id ∈ Finset.range header.stringIds.count.toNat, unitsOf image header limit id :=
          units_read image header limit
      _ ≤ ∑ id ∈ Finset.range header.stringIds.count.toNat, min limit image.size :=
          Finset.sum_le_sum fun id mem => unitsOf_le_min ok (Finset.mem_range.1 mem)
      _ = header.stringIds.count.toNat * min limit image.size := by
          rw [Finset.sum_const, Finset.card_range, smul_eq_mul]

/-- An image of two string ids that point to one text of 122 letters, the last bytes of the
image. -/
def repeatedImage : Bytes :=
  (magicOf 35 ++ List.replicate 28 0 ++ [0x70, 0, 0, 0] ++ List.replicate 16 0
    ++ [2, 0, 0, 0, 0x70, 0, 0, 0] ++ List.replicate 48 0 ++ [0x78, 0, 0, 0] ++ [0x78, 0, 0, 0]
    ++ [122] ++ List.replicate 122 0x61).toArray

/-- The header of that image. -/
def repeatedHeader : Header where
  version := .v35
  checksum := 0
  signature := List.replicate 20 0
  fileSize := 0
  headerSize := 0x70
  endianTag := 0
  linkSize := 0
  linkOffset := 0
  mapOffset := 0
  stringIds := ⟨2, 0x70⟩
  typeIds := ⟨0, 0⟩
  protoIds := ⟨0, 0⟩
  fieldIds := ⟨0, 0⟩
  methodIds := ⟨0, 0⟩
  classDefs := ⟨0, 0⟩
  data := ⟨0, 0⟩

lemma length16_replicate (count : Nat) :
    length16 (String.ofList (List.replicate count 'a')) = count := by
  have unit : (units16 'a').length = 1 := by decide
  rw [length16, String.toList_ofList, List.length_flatMap, List.map_replicate, unit,
    List.sum_replicate_nat, Nat.mul_one]

lemma encode_replicate (count : Nat) :
    Mutf8.encode (String.ofList (List.replicate count 'a')) = List.replicate count 0x61 := by
  have byte : (units16 'a').flatMap Mutf8.encodeUnit = [0x61] := by decide
  rw [Mutf8.encode, String.toList_ofList, List.flatMap_replicate, byte,
    List.flatten_replicate_singleton]

/-- Either text has 122 code units. -/
lemma unitsOf_repeated {id} (listed : id < 2) :
    unitsOf repeatedImage repeatedHeader 122 id = 122 := by
  have words : ∀ id < 2, 0x70 + 4 * id + 4 ≤ repeatedImage.size ∧
      repeatedImage.word (0x70 + 4 * id) = 0x78 := by
    decide +kernel
  have has : repeatedImage.HasWord (repeatedHeader.stringIds.offset.toNat + 4 * id) 0x78 :=
    Bytes.hasWord_iff.2 (words id listed)
  have length : Uleb128.read repeatedImage 0x78 = .ok (122, 1) := by decide +kernel
  have bytes : repeatedImage.toList.drop (0x78 + 1) = List.replicate 122 0x61 ++ [] := by
    decide +kernel
  have begins := Mutf8.begins_encode_append (String.ofList (List.replicate 122 'a')) []
  rw [encode_replicate, ← bytes] at begins
  have units : (122 : UInt32).toNat = length16 (String.ofList (List.replicate 122 'a')) :=
    (length16_replicate 122).symm
  have text := (TextOutcome.text length (Nat.le_refl 122) units begins).eq_textAt
  rw [unitsOf, entry_of_hasWord 122 has, show (0x78 : UInt32).toNat = 0x78 from rfl, text,
    Except.toOption, Option.elim_some, length16_replicate]

/-- The two texts together have more code units than the image has bytes. -/
theorem size_lt_units_of_repeated :
    ∃ parsed, parse repeatedImage 122 = .ok parsed ∧ repeatedImage.size < parsed.pool.units := by
  have accepted : Header.parse repeatedImage = .ok repeatedHeader := by decide +kernel
  have size : repeatedImage.size = 243 := by decide +kernel
  refine ⟨_, parse_eq_ok_iff.2 ⟨repeatedHeader, accepted, rfl⟩, ?_⟩
  have units : (StringPool.read repeatedImage repeatedHeader 122).units = 122 + 122 := by
    rw [units_read]
    show ∑ id ∈ Finset.range 2, _ = _
    rw [Finset.sum_range_succ, Finset.sum_range_one, unitsOf_repeated Nat.zero_lt_two,
      unitsOf_repeated Nat.one_lt_two]
  rw [size, units]
  decide

/-- No byte counts for more than the two ids, and none of the two texts exceeds the limit. -/
theorem units_le_sharing_of_repeated :
    ∃ parsed, parse repeatedImage 122 = .ok parsed ∧
      (∀ position, sharing repeatedImage parsed.header 122 position ≤ 2) ∧
      parsed.pool.units ≤ 2 * repeatedImage.size ∧
      parsed.pool.units ≤ parsed.header.stringIds.count.toNat * min 122 repeatedImage.size := by
  have accepted : parse repeatedImage 122 = .ok ⟨repeatedHeader,
      repeatedHeader.inconsistencies repeatedImage,
      StringPool.read repeatedImage repeatedHeader 122⟩ :=
    parse_eq_ok_iff.2 ⟨repeatedHeader, by decide +kernel, rfl⟩
  have shared (position) : sharing repeatedImage repeatedHeader 122 position ≤ 2 :=
    (Finset.card_filter_le _ _).trans (by decide)
  obtain ⟨-, total, limited, -⟩ := units_le_sharing accepted
  exact ⟨_, accepted, shared, total 2 shared, limited⟩

end Image

end DexTriage
