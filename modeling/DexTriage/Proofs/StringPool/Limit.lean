import Mathlib
import DexTriage.Proofs.Image
import DexTriage.Proofs.StringPool.Units

/-!
# The limit only filters

Whether a text is too long is decided by the length that its id declares (`StringPool.Declares`),
after that length has been read and before anything behind it is. So a lower limit omits ids for it
(`StringPool.entry_of_long`) and changes nothing else (`StringPool.entry_of_short`): the texts under
a lower limit are those under a higher one that have no more code units than the lower one allows
(`StringPool.strings_read_filter`). `Image.parse_under_limits` says it of whole images.
-/

namespace DexTriage

variable {image : Bytes} {low high : Nat}

/-- A text whose length is within both limits, or cannot be read, does not depend on them. -/
lemma textAt_of_short {offset}
    (short : ∀ units width, Uleb128.read image offset = .ok (units, width) →
      units.toNat ≤ low ∧ units.toNat ≤ high) :
    textAt image low offset = textAt image high offset := by
  cases length : Uleb128.read image offset with
  | error e => rw [textAt, textAt, length, error_bind, error_bind]
  | ok result =>
    obtain ⟨units, width⟩ := result
    obtain ⟨within, within'⟩ := short units width length
    rw [textAt_of_read low length, textAt_of_read high length, if_neg (not_lt.2 within),
      if_neg (not_lt.2 within')]

namespace StringPool

variable {header : Header} {limit id : Nat}

/-- A string id is the offset of a length of so many code units. -/
def Declares (image : Bytes) (header : Header) (id units : Nat) : Prop :=
  ∃ offset number width, image.HasWord (header.stringIds.offset.toNat + 4 * id) offset ∧
    Uleb128.read image offset.toNat = .ok (number, width) ∧ number.toNat = units

/-- A string id declares one length at most. -/
lemma Declares.unique {units units'} (declares : Declares image header id units)
    (declares' : Declares image header id units') : units = units' := by
  obtain ⟨offset, number, width, has, length, rfl⟩ := declares
  obtain ⟨offset', number', width', has', length', rfl⟩ := declares'
  obtain rfl := has.unique has'
  rw [length] at length'
  cases length'
  rfl

/-- An id that declares more than the limit is omitted for that. -/
lemma entry_of_long {units} (declares : Declares image header id units) (long : limit < units) :
    entry image header limit id = .error (.stringTooLong units limit) := by
  obtain ⟨offset, number, width, has, length, rfl⟩ := declares
  rw [entry_of_hasWord limit has, textAt_of_read limit length, if_pos long]

/-- What comes of an id that declares no more than the lower limit is the same under a higher
one. -/
lemma entry_of_short (le : low ≤ high)
    (short : ∀ units, Declares image header id units → units ≤ low) :
    entry image header low id = entry image header high id := by
  cases word : image.wordAt (header.stringIds.offset.toNat + 4 * id) with
  | error e => rw [entry, entry, word, error_bind, error_bind]
  | ok offset =>
    rw [entry, entry, word, ok_bind, ok_bind]
    apply textAt_of_short
    intro units width length
    have within := short units.toNat
      ⟨offset, units, width, Bytes.hasWord_of_wordAt word, length, rfl⟩
    exact ⟨within, within.trans le⟩

/-- A text that is read has as many code units as its id declares. -/
lemma declares_of_entry {text} (read : entry image header limit id = .ok text) :
    Declares image header id (length16 text) := by
  rw [entry, bind_eq_ok_iff] at read
  obtain ⟨offset, word, read⟩ := read
  rw [textAt_eq_iff_outcome] at read
  cases read with
  | text length _ units _ =>
    exact ⟨offset, _, _, Bytes.hasWord_of_wordAt word, length, units⟩

/-- The text of an id under a lower limit is that under a higher one, unless it is too long. -/
lemma toOption_entry (le : low ≤ high) :
    (entry image header low id).toOption =
      (entry image header high id).toOption.filter fun text => length16 text ≤ low := by
  by_cases short : ∀ units, Declares image header id units → units ≤ low
  · rw [entry_of_short le short]
    cases read : entry image header high id with
    | error e => rfl
    | ok text =>
      have within := short (length16 text) (declares_of_entry read)
      rw [Except.toOption, Option.filter_some, if_pos (decide_eq_true within)]
  · push Not at short
    obtain ⟨units, declares, long⟩ := short
    rw [entry_of_long declares long]
    cases read : entry image header high id with
    | error e => rfl
    | ok text =>
      obtain rfl := declares.unique (declares_of_entry read)
      rw [Except.toOption, Except.toOption, Option.filter_some, if_neg (by simpa using long)]

/-- The texts under a lower limit are those under a higher one that are short enough. -/
lemma strings_read_filter (le : low ≤ high) :
    (read image header low).strings =
      (read image header high).strings.filter fun text => length16 text ≤ low := by
  rw [strings_read, strings_read, List.filter_filterMap]
  exact List.filterMap_congr fun id _ => toOption_entry le

/-- A text has no more code units than the limit allows and the image has bytes. -/
lemma length16_le_min {text} (parsed : Header.parse image = .ok header)
    (mem : text ∈ (read image header limit).strings) : length16 text ≤ min limit image.size := by
  obtain ⟨id, listed, read⟩ := exists_entry_of_mem mem
  have most : unitsOf image header limit id ≤ min limit image.size := unitsOf_le_min parsed listed
  rwa [unitsOf, read] at most

end StringPool

namespace Image

open StringPool

/-- Under two limits an image is refused for the same reason, or read to the same header and
inconsistencies. An id that declares more than the lower limit is omitted for that under the lower
limit, and nothing else comes of any other id than under the higher limit. So the texts under the
lower limit are those under the higher one that are short enough, in their order; and no text has
more code units than its limit allows and the image has bytes. -/
theorem parse_under_limits (image : Bytes) {low high : Nat} (le : low ≤ high) :
    (∃ e, parse image low = .error e ∧ parse image high = .error e) ∨
    ∃ small large, parse image low = .ok small ∧ parse image high = .ok large ∧
      small.header = large.header ∧ small.inconsistencies = large.inconsistencies ∧
      (∀ id < large.header.stringIds.count.toNat,
        (∀ units, Declares image large.header id units → low < units →
          ⟨id, .stringTooLong units low⟩ ∈ small.pool.omitted) ∧
        ((∀ units, Declares image large.header id units → units ≤ low) →
          (∀ text, small.pool.textOfId? id = some text ↔ large.pool.textOfId? id = some text) ∧
          ∀ e, ⟨id, e⟩ ∈ small.pool.omitted ↔ ⟨id, e⟩ ∈ large.pool.omitted)) ∧
      small.pool.strings = large.pool.strings.filter (fun text => length16 text ≤ low) ∧
      small.pool.strings.Sublist large.pool.strings ∧
      (∀ text ∈ small.pool.strings, length16 text ≤ min low image.size) ∧
      ∀ text ∈ large.pool.strings, length16 text ≤ min high image.size := by
  cases accepted : Header.parse image with
  | error e => exact .inl ⟨e, parse_eq_error_iff.2 accepted, parse_eq_error_iff.2 accepted⟩
  | ok header =>
    have filtered : (read image header low).strings =
        (read image header high).strings.filter fun text => length16 text ≤ low :=
      strings_read_filter le
    refine .inr ⟨_, _, parse_eq_ok_iff.2 ⟨header, accepted, rfl⟩,
      parse_eq_ok_iff.2 ⟨header, accepted, rfl⟩, rfl, rfl, ?_, filtered, ?_,
      fun _ => length16_le_min accepted, fun _ => length16_le_min accepted⟩
    · intro id listed
      refine ⟨fun units declares long => ?_, fun short => ?_⟩
      · exact (mem_omitted_read_iff listed).2 (entry_of_long declares long)
      · have same := entry_of_short le short
        refine ⟨fun text => ?_, fun e => ?_⟩
        · rw [textOfId?_read_iff listed, textOfId?_read_iff listed, same]
        · rw [mem_omitted_read_iff listed, mem_omitted_read_iff listed, same]
    · show (read image header low).strings.Sublist (read image header high).strings
      rw [filtered]
      exact List.filter_sublist

/-- The second id declares 116 code units, which is too long under the lower limit, and under the
higher one more than there are bytes; what comes of the first id is the same. -/
theorem parse_under_limits_of_short_image :
    100 ≤ 200 ∧ ∃ small large, parse shortImage 100 = .ok small ∧ parse shortImage 200 = .ok large ∧
      ⟨1, .stringTooLong 116 100⟩ ∈ small.pool.omitted ∧
      ⟨1, .offsetOutOfRange 0x6D 116 118⟩ ∈ large.pool.omitted ∧
      (small.pool.textOfId? 0 = some "a" ↔ large.pool.textOfId? 0 = some "a") ∧
      small.pool.strings.Sublist large.pool.strings := by
  have accepted : Header.parse shortImage = .ok shortHeader := by decide +kernel
  have first : Declares shortImage shortHeader 0 1 :=
    ⟨0x74, 1, 1, Bytes.hasWord_iff.2 ⟨by decide +kernel, by decide +kernel⟩, by decide +kernel, rfl⟩
  have second : Declares shortImage shortHeader 1 116 :=
    ⟨0x6C, 116, 1, Bytes.hasWord_iff.2 ⟨by decide +kernel, by decide +kernel⟩, by decide +kernel,
      rfl⟩
  obtain ⟨e, refused, -⟩ | ⟨small, large, ok, ok', -, -, ids, -, sublist, -⟩ :=
    parse_under_limits shortImage (show 100 ≤ 200 by decide)
  · rw [parse_eq_error_iff, accepted] at refused
    cases refused
  · obtain ⟨header, same, rfl⟩ := parse_eq_ok_iff.1 ok'
    obtain rfl : shortHeader = header := Except.ok.inj (accepted.symm.trans same)
    refine ⟨by decide, small, _, ok, ok', (ids 1 (by decide)).1 116 second (by decide),
      by decide +kernel, (ids 0 (by decide)).2 (fun units declares => ?_) |>.1 "a", sublist⟩
    rw [declares.unique first]
    decide

end Image

end DexTriage
