import Mathlib
import DexTriage.Proofs.Header.Layout

/-!
# What comes of reading a header

`Header.Outcome` lists what can come of an image, one case for each kind of refusal and one for
success, every case with the negation of those before it. `parse_eq_iff_outcome` shows that
`Header.parse` gives the outcome that the image has, and no other.
-/

namespace DexTriage.Header

/-- A table has no items, or lies within the first `size` bytes. -/
def Fits (header : Header) (size : Nat) (table : Table) : Prop :=
  (header.extent table).count.toNat = 0 ∨
    (header.extent table).offset.toNat + (header.extent table).count.toNat * table.itemWidth ≤ size

/-- What comes of an image. -/
inductive Outcome (image : Bytes) : Except ImageError Header → Prop where
  | tooShort :
    image.size < 8 →
    Outcome image (.error (.invalidMagic image.toList))
  | unknownMagic :
    8 ≤ image.size →
    ¬ IsKnownMagic (image.toList.take 8) →
    Outcome image (.error (.invalidMagic (image.toList.take 8)))
  | truncated :
    IsKnownMagic (image.toList.take 8) →
    image.size < 0x70 →
    Outcome image (.error (.headerTruncated image.size 0x70))
  | narrow {width} :
    IsKnownMagic (image.toList.take 8) →
    0x70 ≤ image.size →
    image.HasWord 36 width →
    width.toNat < 0x70 →
    Outcome image (.error (.headerTruncated width.toNat 0x70))
  | misplaced {header before table behind} :
    LaidOut image header →
    0x70 ≤ header.headerSize.toNat →
    [.stringIds, .typeIds, .protoIds, .fieldIds, .methodIds, .classDefs, .data] =
      before ++ table :: behind →
    (∀ earlier ∈ before, header.Fits image.size earlier) →
    ¬ header.Fits image.size table →
    Outcome image (.error (.offsetOutOfRange (header.extent table).offset.toNat
      ((header.extent table).count.toNat * table.itemWidth) image.size))
  | success {header} :
    LaidOut image header →
    0x70 ≤ header.headerSize.toNat →
    (∀ table, header.Fits image.size table) →
    Outcome image (.ok header)

/-- The tables that are looked for by `checkTables` are those that do not fit. -/
lemma find?_tables_eq (header : Header) (size) :
    (header.tables.find? fun table => !header.places size table) =
      Table.all.find? fun table =>
        (header.extent table).count ≠ 0 && !header.places size table := by
  rw [tables, List.find?_filter]
  simp

/-- A table does not fit when it has items and is not placed within the size. -/
lemma not_fits_iff {header : Header} {size table} :
    ¬ header.Fits size table ↔
      ((header.extent table).count ≠ 0 && !header.places size table) = true := by
  have zero : (header.extent table).count.toNat = 0 ↔ (header.extent table).count = 0 := by
    rw [← UInt32.toNat_inj]
    rfl
  simp only [Fits, places, not_or, zero, Bool.and_eq_true, decide_eq_true_eq, ne_eq,
    Bool.not_eq_true', decide_eq_false_iff_not]
  rfl

/-- A header all of whose tables fit is accepted. -/
lemma checkTables_of_fits {header : Header} {size} (fits : ∀ table, header.Fits size table) :
    header.checkTables size = .ok header := by
  have none : (Table.all.find? fun table =>
      (header.extent table).count ≠ 0 && !header.places size table) = none := by
    rw [List.find?_eq_none]
    intro table _ misplaced
    exact not_fits_iff.2 misplaced (fits table)
  rw [checkTables, find?_tables_eq, none]

/-- The first table that does not fit is the one that is refused. -/
lemma checkTables_of_misplaced {header : Header} {size before table behind}
    (order : Table.all = before ++ table :: behind)
    (fits : ∀ earlier ∈ before, header.Fits size earlier) (misplaced : ¬ header.Fits size table) :
    header.checkTables size = .error (.offsetOutOfRange (header.extent table).offset.toNat
      ((header.extent table).count.toNat * table.itemWidth) size) := by
  have first : (Table.all.find? fun table =>
      (header.extent table).count ≠ 0 && !header.places size table) = some table := by
    rw [List.find?_eq_some_iff_append]
    refine ⟨not_fits_iff.1 misplaced, before, behind, order, fun earlier mem => ?_⟩
    rw [Bool.not_eq_true', ← Bool.not_eq_true, ← not_fits_iff, not_not]
    exact fits earlier mem
  rw [checkTables, find?_tables_eq, first]
  rfl

/-- Either every table fits, or there is a first one that does not. -/
lemma fits_or_first_misplaced (header : Header) (size) :
    (∀ table, header.Fits size table) ∨
      ∃ before table behind, Table.all = before ++ table :: behind ∧
        (∀ earlier ∈ before, header.Fits size earlier) ∧ ¬ header.Fits size table := by
  cases found : Table.all.find? fun table =>
      (header.extent table).count ≠ 0 && !header.places size table with
  | none =>
    left
    intro table
    have listed : table ∈ Table.all := by cases table <;> decide
    have fits := List.find?_eq_none.1 found table listed
    rwa [← not_fits_iff, not_not] at fits
  | some table =>
    right
    obtain ⟨misplaced, before, behind, order, fits⟩ := List.find?_eq_some_iff_append.1 found
    refine ⟨before, table, behind, order, fun earlier mem => ?_, not_fits_iff.2 misplaced⟩
    have placed := fits earlier mem
    rwa [Bool.not_eq_true', ← Bool.not_eq_true, ← not_fits_iff, not_not] at placed

/-- A magic takes eight bytes. -/
lemma length_of_isKnownMagic {bytes} (known : IsKnownMagic bytes) : bytes.length = 8 := by
  obtain ⟨number, -, -, rfl⟩ := known
  rfl

/-- Parsing reads the fields and then checks the tables. -/
lemma parse_eq (image : Bytes) :
    parse image = readChecked image >>= fun header => header.checkTables image.size := rfl

/-- What is read of an image that carries a header of possible width. -/
lemma LaidOut.readChecked_eq_ok {image header} (laid : LaidOut image header)
    (wide : 0x70 ≤ header.headerSize.toNat) : readChecked image = .ok header := by
  obtain ⟨inside, -⟩ := Bytes.hasWord_iff.1 (laid.words (.offset .data))
  obtain ⟨-, size⟩ := Bytes.hasWord_iff.1 (laid.words .headerSize)
  have width : image.word 36 = header.headerSize := size
  have same : carried image header.version = header := by
    refine (laidOut_carried inside laid.magic).unique laid ?_
    rw [carried]
    split <;> rfl
  rw [readChecked_eq inside laid.magic, if_neg (by rw [width]; omega), same]

/-- Every outcome is the one that parsing gives. -/
lemma Outcome.eq_parse {image outcome} (out : Outcome image outcome) : parse image = outcome := by
  rw [parse_eq]
  cases out with
  | tooShort short =>
    have whole : image.toList.take 8 = image.toList := by
      apply List.take_of_length_le
      rw [Array.length_toList]
      omega
    have unknown : ¬ IsKnownMagic (image.toList.take 8) := by
      intro known
      have := length_of_isKnownMagic known
      rw [whole, Array.length_toList] at this
      omega
    rw [readChecked_of_unknown unknown, error_bind, whole]
  | unknownMagic _ unknown => rw [readChecked_of_unknown unknown, error_bind]
  | truncated known short => rw [readChecked_of_truncated known short, error_bind]
  | @narrow width known inside has narrow =>
    obtain ⟨version, magic⟩ := known.exists_version
    obtain ⟨-, size⟩ := Bytes.hasWord_iff.1 has
    rw [readChecked_eq inside magic, size, if_pos narrow, error_bind]
  | misplaced laid wide order fits misplaced =>
    rw [laid.readChecked_eq_ok wide, ok_bind, checkTables_of_misplaced order fits misplaced]
  | success laid wide fits => rw [laid.readChecked_eq_ok wide, ok_bind, checkTables_of_fits fits]

/-- What parsing gives is an outcome of the image. -/
lemma outcome_parse (image : Bytes) : Outcome image (parse image) := by
  -- in the order in which an image is refused; each outcome is the one that parsing gives
  by_cases short : image.size < 8
  · have out := Outcome.tooShort short
    rwa [out.eq_parse]
  by_cases known : IsKnownMagic (image.toList.take 8)
  · by_cases inside : 0x70 ≤ image.size
    · obtain ⟨version, magic⟩ := known.exists_version
      have laid := laidOut_carried inside magic
      by_cases wide : 0x70 ≤ (carried image version).headerSize.toNat
      · obtain fits | ⟨before, table, behind, order, fits, misplaced⟩ :=
          fits_or_first_misplaced (carried image version) image.size
        · have out := Outcome.success laid wide fits
          rwa [out.eq_parse]
        · have out := Outcome.misplaced laid wide order fits misplaced
          rwa [out.eq_parse]
      · have out := Outcome.narrow known inside (laid.words .headerSize) (not_le.1 wide)
        rwa [out.eq_parse]
    · have out := Outcome.truncated known (not_le.1 inside)
      rwa [out.eq_parse]
  · have out := Outcome.unknownMagic (not_lt.1 short) known
    rwa [out.eq_parse]

/-- The tables of a header that is accepted lie in the image, and its words are those of the
image. -/
lemma laidOut_of_parse {image : Bytes} {header} (parsed : parse image = .ok header) :
    LaidOut image header ∧ 0x70 ≤ header.headerSize.toNat ∧ ∀ table, header.Fits image.size table := by
  have out := outcome_parse image
  rw [parsed] at out
  cases out with
  | success laid wide fits => exact ⟨laid, wide, fits⟩

/-- An end of a table, computed in 64 bits, is what it is as a number. -/
lemma toNat_end_eq (extent : Extent) (table : Table) :
    (extent.offset.toUInt64 + extent.count.toUInt64 * UInt64.ofNat table.itemWidth).toNat =
      extent.offset.toNat + extent.count.toNat * table.itemWidth := by
  have offset := extent.offset.toNat_lt
  have count := extent.count.toNat_lt
  have width : table.itemWidth ≤ 32 := by cases table <;> decide
  have product : extent.count.toNat * table.itemWidth ≤ 4294967296 * 32 :=
    Nat.mul_le_mul (by omega) width
  simp only [UInt64.toNat_add, UInt64.toNat_mul, UInt32.toNat_toUInt64, UInt64.toNat_ofNat']
  rw [Nat.mod_eq_of_lt (a := table.itemWidth) (by omega), Nat.mod_eq_of_lt (by omega),
    Nat.mod_eq_of_lt (by omega)]

/-- Parsing an image has exactly the outcomes that are listed, each in its turn. The ends of the
tables are compared as numbers, which 64 bits hold without wrapping; no image is refused for a
header that is short of its container fields. -/
theorem parse_eq_iff_outcome (image : Bytes) (outcome : Except ImageError Header) :
    (parse image = outcome ↔ Outcome image outcome) ∧
    (∀ (header : Header) (table : Table),
      ((header.extent table).offset.toUInt64 +
        (header.extent table).count.toUInt64 * UInt64.ofNat table.itemWidth).toNat =
      (header.extent table).offset.toNat + (header.extent table).count.toNat * table.itemWidth) ∧
    (∀ got, parse image ≠ .error (.headerTruncated got 0x78)) := by
  refine ⟨⟨?_, Outcome.eq_parse⟩, fun header table => toNat_end_eq _ table, ?_⟩
  · rintro rfl
    exact outcome_parse image
  · intro got refused
    have out := outcome_parse image
    rw [refused] at out
    cases out

end DexTriage.Header
