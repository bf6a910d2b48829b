import Mathlib
import DexTriage.Proofs.Image
import DexTriage.Proofs.StringPool.Accounts

/-!
# Images that grow

An image stays readable when bytes are put behind it. `Header.parse_of_append` says what becomes of its
header: only the container fields may come in, where the image ended before them. What comes of a
text, if it lasts, stays as it is (`TextOutcome.append`), so that no id loses its text or gets another
one (`Image.parse_append`).
-/

namespace DexTriage

namespace Header

/-- The header with the container fields of an image, if it is wide enough for them. -/
def withContainerOf (header : Header) (image : Bytes) : Header :=
  if header.hasContainer image.size then
    { header with containerSize := image.word 0x70, containerOffset := image.word 0x74 }
  else
    header

/-- Only container fields may be different. -/
lemma withContainerOf_eq (header : Header) (image) :
    header.withContainerOf image = { header with
      containerSize := (header.withContainerOf image).containerSize
      containerOffset := (header.withContainerOf image).containerOffset } := by
  obtain ⟨size, offset, eq⟩ : ∃ size offset, header.withContainerOf image =
      { header with containerSize := size, containerOffset := offset } := by
    rw [withContainerOf]
    split
    · exact ⟨_, _, rfl⟩
    · exact ⟨_, _, rfl⟩
  rw [eq]

/-- Container fields are in no table. -/
lemma extent_withContainer (header : Header) (size offset table) :
    ({ header with containerSize := size, containerOffset := offset } : Header).extent table =
      header.extent table := by
  cases table <;> rfl

/-- No table depends on the container fields of an image. -/
lemma extent_withContainerOf (header : Header) (image table) :
    (header.withContainerOf image).extent table = header.extent table := by
  rw [withContainerOf]
  split
  · exact extent_withContainer header _ _ table
  · rfl

/-- No word of the layout depends on the container fields of an image. -/
lemma wordOf_withContainerOf (header : Header) (image word) :
    (header.withContainerOf image).wordOf word = header.wordOf word := by
  rw [withContainerOf]
  split
  · exact wordOf_withContainer header _ _ word
  · rfl

/-- Whether there are container fields does not depend on what they are. -/
lemma isExtended_withContainerOf {header : Header} {image : Bytes} :
    IsExtended image (header.withContainerOf image) ↔ IsExtended image header := by
  rw [withContainerOf]
  split
  · exact isExtended_withContainer
  · rfl

variable {data : Bytes} {header : Header}

/-- The words of a header take the first `0x70` bytes. -/
lemma LaidOut.size_le (laid : LaidOut data header) : 0x70 ≤ data.size := by
  obtain ⟨inside, -⟩ := Bytes.hasWord_iff.1 (laid.words (.offset .data))
  exact inside

/-- A longer image carries the same header, but for container fields that it has room for. -/
lemma LaidOut.append (laid : LaidOut data header) (more : Bytes) :
    LaidOut (data ++ more) (header.withContainerOf (data ++ more)) := by
  have inside := laid.size_le
  have length : data.toList.length = data.size := Array.length_toList
  have magic : (data ++ more).toList.take 8 = magicOf header.version.number := by
    rw [Array.toList_append, List.take_append_of_le_length (by omega), laid.magic]
  have signature : ((data ++ more).toList.drop 12).take 20 = header.signature := by
    rw [Bytes.drop_append more (by omega), List.take_append_of_le_length, laid.signature]
    rw [List.length_drop]
    omega
  refine ⟨?_, fun word => ?_, ?_, fun wide => ?_, fun narrow => ?_⟩
  · rw [magic, withContainerOf]
    split
    · rfl
    · rfl
  · rw [wordOf_withContainerOf]
    exact (laid.words word).append more
  · rw [signature, withContainerOf]
    split
    · rfl
    · rfl
  · have extended : IsExtended (data ++ more) header := isExtended_withContainerOf.1 wide
    have room : 0x78 ≤ (data ++ more).size := extended.2.2
    rw [withContainerOf, if_pos (hasContainer_iff.2 extended)]
    exact ⟨Bytes.hasWord_word (by omega), Bytes.hasWord_word (by omega)⟩
  · have narrow : ¬ IsExtended (data ++ more) header := mt isExtended_withContainerOf.2 narrow
    have narrow' : ¬ IsExtended data header := by
      rintro ⟨version, wide, room⟩
      refine narrow ⟨version, wide, ?_⟩
      rw [Array.size_append]
      omega
    rw [withContainerOf, if_neg (mt hasContainer_iff.1 narrow)]
    exact laid.noContainer narrow'

/-- Container fields that an image has are those of every longer one. -/
lemma LaidOut.withContainerOf_append (laid : LaidOut data header) (extended : IsExtended data header)
    (more : Bytes) : header.withContainerOf (data ++ more) = header := by
  obtain ⟨size, offset⟩ := laid.container extended
  obtain ⟨-, size⟩ := Bytes.hasWord_iff.1 (size.append more)
  obtain ⟨-, offset⟩ := Bytes.hasWord_iff.1 (offset.append more)
  rw [withContainerOf]
  split
  · rw [size, offset]
  · rfl

/-- A longer image has the same header, unless it ended before its container fields. -/
lemma parse_of_append (more : Bytes) (parsed : parse data = .ok header) :
    parse (data ++ more) = .ok (header.withContainerOf (data ++ more)) ∧
    (header.withContainerOf (data ++ more) ≠ header →
      header.version = .v41 ∧ 0x78 ≤ header.headerSize.toNat ∧ data.size < 0x78) := by
  obtain ⟨laid, wide, fits⟩ := laidOut_of_parse parsed
  constructor
  · have wide' : 0x70 ≤ (header.withContainerOf (data ++ more)).headerSize.toNat := by
      have same := wordOf_withContainerOf header (data ++ more) .headerSize
      rwa [show (header.withContainerOf (data ++ more)).headerSize = header.headerSize from same]
    have fits' (table) : (header.withContainerOf (data ++ more)).Fits (data ++ more).size table := by
      rw [Fits, extent_withContainerOf, Array.size_append]
      obtain empty | inside := fits table
      · exact .inl empty
      · exact .inr (Nat.le_add_right_of_le inside)
    exact (Outcome.success (laid.append more) wide' fits').eq_parse
  · intro changed
    have new : ¬ IsExtended data header := fun extended =>
      changed (laid.withContainerOf_append extended more)
    have extended : IsExtended (data ++ more) header := by
      by_contra narrow
      rw [withContainerOf, if_neg (mt hasContainer_iff.1 narrow)] at changed
      exact changed rfl
    obtain ⟨version, wide, -⟩ := extended
    exact ⟨version, wide, not_le.1 fun room => new ⟨version, wide, room⟩⟩

end Header

/-- What comes of a text, if it lasts, comes of it in a longer image. -/
lemma TextOutcome.append {data : Bytes} {limit offset outcome}
    (out : TextOutcome data limit offset outcome) (lasts : Lasts outcome) (more : Bytes) :
    TextOutcome (data ++ more) limit offset outcome := by
  have longer : data.size ≤ (data ++ more).size := by
    rw [Array.size_append]
    omega
  have length {units width} (read : Uleb128.read data offset = .ok (units, width)) :
      Uleb128.read (data ++ more) offset = .ok (units, width) := by
    rw [Uleb128.read_append more (by rw [read]; exact lasts_ok _), read]
  have behind {units width} (read : Uleb128.read data offset = .ok (units, width)) :
      (data ++ more).toList.drop (offset + width) =
        data.toList.drop (offset + width) ++ more.toList := by
    obtain ⟨-, -, inside⟩ := Uleb128.width_of_read read
    exact Bytes.drop_append more inside
  cases out with
  | unreadLength refused =>
    refine .unreadLength ?_
    rw [Uleb128.read_append more (by rw [refused]; exact lasts.of_error), refused]
  | tooLong read long => exact .tooLong (length read) long
  | outside => exact (lasts_error.1 lasts).elim
  | unreadText read short inside refused =>
    refine .unreadText (length read) short (inside.trans longer) ?_
    rw [behind read, Mutf8.decode_append more.toList (by rw [refused]; exact lasts.of_error), refused]
  | text read short units begins =>
    refine .text (length read) short units ?_
    obtain ⟨spelled, rest, eq, sp⟩ := begins
    exact ⟨spelled, rest ++ more.toList, by rw [behind read, eq, List.append_assoc], sp⟩

namespace StringPool

/-- What comes of an id, if it lasts, comes of it in a longer image. -/
lemma entry_append {data : Bytes} {header header' : Header} {limit id outcome} (more : Bytes)
    (parsed : Header.parse data = .ok header) (same : header'.stringIds = header.stringIds)
    (listed : id < header.stringIds.count.toNat) (eq : entry data header limit id = outcome)
    (lasts : Lasts outcome) : entry (data ++ more) header' limit id = outcome := by
  obtain ⟨offset, has⟩ := exists_hasWord_of_parse parsed listed
  rw [entry_of_hasWord limit has, textAt_eq_iff_outcome] at eq
  rw [← same] at has
  rw [entry_of_hasWord limit (has.append more), textAt_eq_iff_outcome]
  exact eq.append lasts more

end StringPool

namespace Image

/-- Bytes behind an image keep it readable. Its header stays as it is, unless the image ended before
its container fields, which alone may change then; every id that has a text keeps it, and every id
that is omitted for another reason than that the image ends stays omitted for that reason. -/
theorem parse_append {data : Bytes} {limit : Nat} {small : Image} (more : Bytes)
    (parsed : parse data limit = .ok small) :
    ∃ grown, parse (data ++ more) limit = .ok grown ∧
      grown.header = { small.header with
        containerSize := grown.header.containerSize
        containerOffset := grown.header.containerOffset } ∧
      (grown.header ≠ small.header →
        small.header.version = .v41 ∧ 0x78 ≤ small.header.headerSize.toNat ∧ data.size < 0x78) ∧
      (∀ id text, small.pool.textOfId? id = some text → grown.pool.textOfId? id = some text) ∧
      ∀ omission ∈ small.pool.omitted, omission.error.IsLasting → omission ∈ grown.pool.omitted := by
  obtain ⟨header, accepted, rfl⟩ := parse_eq_ok_iff.1 parsed
  obtain ⟨accepted', changed⟩ := Header.parse_of_append more accepted
  have ids : (header.withContainerOf (data ++ more)).stringIds = header.stringIds :=
    Header.extent_withContainerOf header _ .stringIds
  have acc := StringPool.accounts_ofEntries header.stringIds.count.toNat
    (StringPool.entry data header limit)
  refine ⟨_, parse_eq_ok_iff.2 ⟨_, accepted', rfl⟩, Header.withContainerOf_eq header _, changed, ?_,
    ?_⟩
  · intro id text kept
    have listed := acc.lt_of_textOfId? kept
    have read := (StringPool.textOfId?_read_iff listed).1 kept
    refine (StringPool.textOfId?_read_iff (by rwa [ids])).2 ?_
    exact StringPool.entry_append more accepted ids listed read (lasts_ok text)
  · intro omission mem lasting
    have listed := acc.below omission mem
    have refused := (StringPool.mem_omitted_read_iff listed).1 mem
    refine (StringPool.mem_omitted_read_iff (by rwa [ids])).2 ?_
    exact StringPool.entry_append more accepted ids listed refused (lasts_error.2 lasting)

/-- Behind an image that ended before its container fields, both ids keep what they had. -/
theorem parse_append_of_short_image :
    parse StringPool.shortImage 100 = .ok ⟨StringPool.shortHeader,
      StringPool.shortHeader.inconsistencies StringPool.shortImage,
      StringPool.read StringPool.shortImage StringPool.shortHeader 100⟩ ∧
    ∃ grown, parse (StringPool.shortImage ++ #[0, 0]) 100 = .ok grown ∧
      grown.pool.textOfId? 0 = some "a" ∧ ⟨1, .stringTooLong 116 100⟩ ∈ grown.pool.omitted := by
  have parsed : parse StringPool.shortImage 100 = .ok ⟨StringPool.shortHeader,
      StringPool.shortHeader.inconsistencies StringPool.shortImage,
      StringPool.read StringPool.shortImage StringPool.shortHeader 100⟩ :=
    parse_eq_ok_iff.2 ⟨StringPool.shortHeader, by decide +kernel, rfl⟩
  obtain ⟨grown, eq, -, -, texts, omissions⟩ := parse_append #[0, 0] parsed
  exact ⟨parsed, grown, eq, texts 0 "a" (by decide +kernel),
    omissions ⟨1, .stringTooLong 116 100⟩ (by decide +kernel) trivial⟩

end Image

end DexTriage
