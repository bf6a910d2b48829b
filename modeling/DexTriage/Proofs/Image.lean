import Mathlib
import DexTriage.Image
import DexTriage.Proofs.Except

/-!
# What comes of an image

The header alone decides whether an image is read (`Image.parse_eq_ok_iff`,
`Image.parse_eq_error_iff`). The texts of its pool are those that its string ids lead to, one after
the other (`StringPool.strings_read`).
-/

namespace DexTriage

namespace Image

variable {image : Bytes} {limit : Nat}

/-- An image is read when its header is. -/
lemma parse_eq_ok_iff {parsed} :
    parse image limit = .ok parsed ↔ ∃ header, Header.parse image = .ok header ∧
      parsed = ⟨header, header.inconsistencies image, StringPool.read image header limit⟩ := by
  rw [parse, bind_eq_ok_iff]
  constructor
  · rintro ⟨header, accepted, eq⟩
    cases eq
    exact ⟨header, accepted, rfl⟩
  · rintro ⟨header, accepted, rfl⟩
    exact ⟨header, accepted, rfl⟩

/-- An image is refused for its header only. -/
lemma parse_eq_error_iff {e} : parse image limit = .error e ↔ Header.parse image = .error e := by
  rw [parse, bind_eq_error_iff]
  constructor
  · rintro (refused | ⟨header, -, refused⟩)
    · exact refused
    · cases refused
  · exact .inl

end Image

namespace StringPool

variable {image : Bytes} {header : Header} {limit : Nat}

/-- The texts of a pool are those of its ids. -/
lemma strings_read :
    (read image header limit).strings = (List.range header.stringIds.count.toNat).filterMap
      fun id => (entry image header limit id).toOption :=
  List.filterMap_map

/-- A text of a pool is that of an id. -/
lemma exists_entry_of_mem {text} (mem : text ∈ (read image header limit).strings) :
    ∃ id < header.stringIds.count.toNat, entry image header limit id = .ok text := by
  rw [strings_read, List.mem_filterMap] at mem
  obtain ⟨id, listed, read⟩ := mem
  refine ⟨id, List.mem_range.1 listed, ?_⟩
  cases outcome : entry image header limit id with
  | error e =>
    rw [outcome] at read
    cases read
  | ok other =>
    rw [outcome] at read
    cases read
    rfl

end StringPool

end DexTriage
