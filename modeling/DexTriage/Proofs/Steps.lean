import Mathlib
import DexTriage.Proofs.Draft

/-!
# Images say what the steps ask for

The steps to a blueprint may come in any order, and the last one that sets a field decides it
(`Blueprint.foldl_step_eq_getLastD`). `Header.Describes` says what the header of the image is in terms
of the steps; `Blueprint.drawn_of_steps` says that the image can be drawn in place, that such a
header is read back from it, and that the image disagrees with it in nothing but a size that was
asked for.
-/

namespace DexTriage

namespace BlueprintStep

/-- The version that a step sets. -/
def version? : BlueprintStep → Option Version
  | .version next => some next
  | .containerHeader => some .v41
  | _ => none

/-- The size that a step has the header declare. -/
def declared? : BlueprintStep → Option UInt32
  | .declaredSize size => some size
  | _ => none

/-- The last version that is set; the first known one if none is. -/
def lastVersion (steps : List BlueprintStep) : Version :=
  (steps.filterMap version?).getLastD .v35

/-- The last size that the header is to declare. -/
def lastDeclared? (steps : List BlueprintStep) : Option UInt32 :=
  (steps.filterMap declared?).getLast?

end BlueprintStep

open BlueprintStep (appended declared? version? lastVersion lastDeclared?)

/-- A header says of an image of `size` bytes what the steps to the image ask for. -/
structure Header.Describes (header : Header) (steps : List BlueprintStep) (size : Nat) : Prop where
  version : header.version = lastVersion steps
  wide : .containerHeader ∈ steps → header.headerSize = 0x78
  narrow : .containerHeader ∉ steps → header.headerSize = 0x70
  /-- There is an id for every item that was added. -/
  ids : header.stringIds.count.toNat = (steps.flatMap appended).length
  noIds : header.stringIds.count.toNat = 0 → header.stringIds.offset = 0
  /-- The ids lie behind the header. -/
  behindHeader : 0 < header.stringIds.count.toNat → header.stringIds.offset = header.headerSize
  noData : header.data.count.toNat = 0 → header.data.offset = 0
  /-- The data lies behind the ids. -/
  behindIds : 0 < header.data.count.toNat →
    header.data.offset.toNat = header.headerSize.toNat + 4 * header.stringIds.count.toNat
  /-- There is nothing else in the image. -/
  total : header.headerSize.toNat + 4 * header.stringIds.count.toNat + header.data.count.toNat = size
  others : ∀ table, table ≠ .stringIds → table ≠ .data → header.extent table = ⟨0, 0⟩
  inContainer : .containerHeader ∈ steps → lastVersion steps = .v41 →
    header.containerSize.toNat = size
  alone : ¬ (.containerHeader ∈ steps ∧ lastVersion steps = .v41) → header.containerSize = 0
  containerOffset : header.containerOffset = 0

namespace Blueprint

/-- A field that is only ever set by a step has the value that was set last. -/
lemma foldl_step_eq_getLastD {α : Type} {field : Blueprint → α} {set? : BlueprintStep → Option α}
    (sets : ∀ blueprint step, field (blueprint.step step) = (set? step).getD (field blueprint))
    (blueprint : Blueprint) (steps : List BlueprintStep) :
    field (steps.foldl step blueprint) = (steps.filterMap set?).getLastD (field blueprint) := by
  induction steps generalizing blueprint with
  | nil => rfl
  | cons first steps ih =>
    rw [List.foldl_cons, ih, sets]
    cases next : set? first with
    | none => rw [List.filterMap_cons_none next, Option.getD_none]
    | some value => rw [List.filterMap_cons_some next, List.getLastD_cons, Option.getD_some]

/-- The version of a blueprint is the last one that is set. -/
lemma version_ofSteps (steps : List BlueprintStep) : (ofSteps steps).version = lastVersion steps := by
  refine foldl_step_eq_getLastD (fun blueprint step => ?_) {} steps
  cases step <;> rfl

/-- The size that a blueprint has the header declare is the last one that is asked for. -/
lemma declaredSize_ofSteps (steps : List BlueprintStep) :
    (ofSteps steps).declaredSize = lastDeclared? steps := by
  have last := @foldl_step_eq_getLastD _ declaredSize (fun step => step.declared?.map some)
    (fun blueprint step => by cases step <;> rfl) {} steps
  rw [ofSteps, last, lastDeclared?, List.getLastD_eq_getLast?, ← List.map_filterMap,
    List.getLast?_map]
  cases (steps.filterMap declared?).getLast? <;> rfl

/-- A blueprint has container fields if a step asks for them, in whatever place. -/
lemma container_foldl (blueprint : Blueprint) (steps : List BlueprintStep) :
    (steps.foldl step blueprint).container = true ↔
      blueprint.container = true ∨ .containerHeader ∈ steps := by
  induction steps generalizing blueprint with
  | nil => simp
  | cons first steps ih =>
    rw [List.foldl_cons, ih, List.mem_cons]
    cases first <;> simp [step]

/-- A blueprint drawn up from nothing has container fields if a step asks for them. -/
lemma container_ofSteps (steps : List BlueprintStep) :
    (ofSteps steps).container = true ↔ .containerHeader ∈ steps := by
  rw [ofSteps, container_foldl]
  simp

variable (blueprint : Blueprint)

/-- The size of the image is a multiple of four bytes. -/
lemma four_dvd_size : 4 ∣ blueprint.size := by
  rw [size, body, List.length_append, List.length_replicate]
  omega

/-- The header has room for container fields if they are asked for. -/
lemma wide_signedHeader :
    containerHeaderWidth ≤ blueprint.signedHeader.headerSize.toNat ↔
      blueprint.container = true := by
  rw [show blueprint.signedHeader.headerSize.toNat = _ from blueprint.headerSize_header, headerSize]
  split
  · rename_i container
    exact ⟨fun _ => container, fun _ => Nat.le_refl _⟩
  · rename_i container
    exact ⟨fun wide => absurd wide (by decide), fun has => absurd has container⟩

/-- The header that is read from the image is that of the blueprint, sealed, without a size of the
container unless that counts. -/
lemma asRead_signedHeader :
    blueprint.signedHeader.asRead =
      { blueprint.signedHeader with
        containerSize :=
          if blueprint.version = .v41 ∧ blueprint.container = true then UInt32.ofNat blueprint.size
          else 0 } := by
  rw [Header.asRead]
  by_cases counts : blueprint.version = .v41 ∧ blueprint.container = true
  · rw [if_pos counts, if_pos ⟨counts.1, blueprint.wide_signedHeader.2 counts.2⟩]
    rfl
  · rw [if_neg counts, if_neg fun wide => counts ⟨wide.1, blueprint.wide_signedHeader.1 wide.2⟩]
    rfl

/-- The image has the checksum that its header declares. -/
lemma checksumOf_image : checksumOf blueprint.image = blueprint.signedHeader.asRead.checksum := by
  rw [image_eq_sign, checksumOf_sign blueprint.le_size_unsigned, asRead_signedHeader]
  rfl

/-- The image has the signature that its header declares. -/
lemma signatureOf_image :
    signatureOf blueprint.image = blueprint.signedHeader.asRead.signature := by
  rw [image_eq_sign, signatureOf_sign blueprint.le_size_unsigned, asRead_signedHeader]
  rfl

/-- The image disagrees with the header that is read from it in no more than the size. -/
lemma inconsistencies_image :
    blueprint.signedHeader.asRead.inconsistencies blueprint.image =
      if blueprint.signedHeader.fileSize.toNat = blueprint.size then []
      else [.fileSizeMismatch blueprint.signedHeader.fileSize.toNat blueprint.size] := by
  have fileSize : blueprint.signedHeader.asRead.fileSize = blueprint.signedHeader.fileSize := by
    rw [asRead_signedHeader]
  have endianTag : blueprint.signedHeader.asRead.endianTag = littleEndianTag := by
    rw [asRead_signedHeader]
    rfl
  rw [Header.inconsistencies, if_pos blueprint.checksumOf_image, if_pos blueprint.signatureOf_image,
    if_pos endianTag, fileSize, size_image, List.append_nil, List.append_nil, List.append_nil]

/-- The header says where the ids lie. -/
lemma offset_stringIds_header :
    blueprint.header.stringIds.offset =
      if blueprint.items.length = 0 then 0 else blueprint.header.headerSize := by
  have empty : blueprint.items.isEmpty = true ↔ blueprint.items.length = 0 :=
    List.isEmpty_iff_length_eq_zero
  simp only [header, empty]

/-- The header of a blueprint that is small enough says where the data lies. -/
lemma offset_data_header (small : blueprint.size < 2 ^ 32) :
    blueprint.header.data.offset.toNat =
      if blueprint.body.length = 0 then 0 else blueprint.dataStart := by
  have empty : blueprint.body.isEmpty = true ↔ blueprint.body.length = 0 :=
    List.isEmpty_iff_length_eq_zero
  have toNat : (UInt32.ofNat blueprint.dataStart).toNat = blueprint.dataStart :=
    UInt32.toNat_ofNat_of_lt' (by rw [UInt32.size]; rw [size] at small; omega)
  simp only [header, empty]
  split
  · rfl
  · exact toNat

/-- The header that is read from the image of steps says what they ask for. -/
lemma describes_asRead (steps : List BlueprintStep) (small : (ofSteps steps).size < 2 ^ 32) :
    (ofSteps steps).signedHeader.asRead.Describes steps (ofSteps steps).size := by
  obtain ⟨blueprint, drawn⟩ : ∃ blueprint, ofSteps steps = blueprint := ⟨_, rfl⟩
  have requested : blueprint.container = true ↔ .containerHeader ∈ steps := by
    rw [← drawn, container_ofSteps]
  have version : blueprint.version = lastVersion steps := by rw [← drawn, version_ofSteps]
  have items : blueprint.items = steps.flatMap appended := by rw [← drawn, items_ofSteps]
  rw [drawn] at small ⊢
  have headerSize := blueprint.headerSize_header
  have ids : blueprint.header.stringIds.count.toNat = blueprint.items.length := by
    rw [← stringIds_asRead, count_asRead blueprint small]
  have idsOffset := blueprint.offset_stringIds_header
  have dataCount := blueprint.count_data_header small
  have dataOffset := blueprint.offset_data_header small
  -- but for the size of the container, the header is that of the blueprint
  rw [asRead_signedHeader]
  refine ⟨version, fun asked => ?wide, fun unasked => ?narrow, ids.trans (by rw [items]),
    fun none => ?noIds, fun some => ?behindHeader, fun none => ?noData, fun some => ?behindIds,
    ?total, fun table notIds notData => ?others, fun asked last => ?inContainer,
    fun neither => ?alone, rfl⟩
  case wide =>
    show UInt32.ofNat blueprint.headerSize = 0x78
    rw [Blueprint.headerSize, if_pos (requested.2 asked)]
    rfl
  case narrow =>
    show UInt32.ofNat blueprint.headerSize = 0x70
    rw [Blueprint.headerSize, if_neg (unasked ∘ requested.1)]
    rfl
  case noIds => exact idsOffset.trans (if_pos (ids.symm.trans none))
  case behindHeader => exact idsOffset.trans (if_neg (ids.symm.trans_ne some.ne'))
  case noData =>
    exact UInt32.toNat_inj.1 (dataOffset.trans (if_pos (dataCount.symm.trans none)))
  case behindIds =>
    show blueprint.header.data.offset.toNat =
      blueprint.header.headerSize.toNat + 4 * blueprint.header.stringIds.count.toNat
    rw [dataOffset, if_neg (dataCount.symm.trans_ne some.ne'), headerSize, ids, dataStart]
  case total =>
    show blueprint.header.headerSize.toNat + 4 * blueprint.header.stringIds.count.toNat +
      blueprint.header.data.count.toNat = blueprint.size
    rw [headerSize, ids, dataCount, size, dataStart]
  case others =>
    cases table with
    | stringIds => exact absurd rfl notIds
    | data => exact absurd rfl notData
    | _ => rfl
  case inContainer =>
    dsimp only
    rw [if_pos ⟨version.trans last, requested.2 asked⟩]
    exact UInt32.toNat_ofNat_of_lt' small
  case alone =>
    exact if_neg fun both => neither ⟨requested.1 both.2, version.symm.trans both.1⟩

/-- The image of steps can be drawn in place, if it is small enough: no write leaves the buffer.
Its size is a multiple of four bytes, its header is read back and says what the steps ask for, and
the image disagrees with it in nothing but the size that was asked for last, if it is not the true
one. -/
theorem drawn_of_steps (steps : List BlueprintStep)
    (small : (ofSteps steps).image.size < 2 ^ 32) :
    ∃ image header, (ofSteps steps).draw? = some image ∧ image = (ofSteps steps).image ∧
      4 ∣ image.size ∧ Header.parse image = .ok header ∧ header.Describes steps image.size ∧
      (∀ declared, lastDeclared? steps = some declared → declared.toNat ≠ image.size →
        header.inconsistencies image = [.fileSizeMismatch declared.toNat image.size]) ∧
      ((∀ declared, lastDeclared? steps = some declared → declared.toNat = image.size) →
        header.inconsistencies image = []) := by
  have size := (ofSteps steps).size_image
  rw [size] at small
  have fileSize : (ofSteps steps).signedHeader.fileSize =
      (lastDeclared? steps).getD (UInt32.ofNat (ofSteps steps).size) := by
    rw [← declaredSize_ofSteps]
    rfl
  have only := (ofSteps steps).inconsistencies_image
  rw [fileSize] at only
  refine ⟨_, _, (ofSteps steps).draw?_eq small, rfl, ?_, (ofSteps steps).parse_image small, ?_,
    fun declared asked other => ?_, fun same => ?_⟩
  · rw [size]
    exact (ofSteps steps).four_dvd_size
  · rw [size]
    exact describes_asRead steps small
  · rw [size] at other ⊢
    rw [only, asked, Option.getD_some, if_neg other]
  · rw [only, if_pos]
    cases asked : lastDeclared? steps with
    | none => exact UInt32.toNat_ofNat_of_lt' small
    | some declared => exact (same declared asked).trans size

/-- Steps of which two ask for a version and two for a size. -/
def overrulingSteps : List BlueprintStep :=
  [.declaredSize 7, .containerHeader, .item (.text "é"), .item (.dangling 0xFFFFFFFF),
    .version .v39, .declaredSize 8]

/-- A version that is set after the container header takes the fields of the container away, and of
two sizes that are asked for the last one is declared. -/
theorem drawn_of_overruling_steps :
    (ofSteps overrulingSteps).image.size < 2 ^ 32 ∧
    ∃ image header, (ofSteps overrulingSteps).draw? = some image ∧
      Header.parse image = .ok header ∧ header.version = .v39 ∧ header.headerSize = 0x78 ∧
      header.containerSize = 0 ∧ header.inconsistencies image = [.fileSizeMismatch 8 132] := by
  have size : (ofSteps overrulingSteps).image.size = 132 := by
    rw [size_image]
    decide +kernel
  have small : (ofSteps overrulingSteps).image.size < 2 ^ 32 := by
    rw [size]
    decide
  obtain ⟨image, header, drawn, same, -, parsed, describes, mismatch, -⟩ :=
    drawn_of_steps overrulingSteps small
  have last : lastVersion overrulingSteps = .v39 := rfl
  have asked : lastDeclared? overrulingSteps = some 8 := rfl
  have wide := describes.wide (.tail _ (.head _))
  have alone : header.containerSize = 0 := by
    apply describes.alone
    rw [last]
    exact fun both => absurd both.2 (by decide)
  have only := mismatch 8 asked
  rw [same, size, ← same] at only
  exact ⟨small, image, header, drawn, parsed, describes.version.trans last, wide, alone, only (by decide)⟩

end Blueprint

end DexTriage
