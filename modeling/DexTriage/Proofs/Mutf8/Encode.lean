import Mathlib
import DexTriage.Proofs.Mutf8.Spelling

/-!
# What is encoded is a spelling

`encode` writes a spelling of the text (`spells_encode`), so that by the grammar every encoded text
is read back, whatever is behind it.
-/

namespace DexTriage.Mutf8

/-- A code unit is spelled by its encoding. -/
lemma spellsUnit_encodeUnit {unit} (small : unit < 0x10000) :
    SpellsUnit (encodeUnit unit) unit := by
  have byte {n : Nat} (lt : n < 256) : (UInt8.ofNat n).toNat = n :=
    UInt8.toNat_ofNat_of_lt' (by rw [UInt8.size]; exact lt)
  rw [encodeUnit]
  split
  · rename_i ascii
    have value := byte (n := unit) (by omega)
    have su : SpellsUnit [UInt8.ofNat unit] (UInt8.ofNat unit).toNat :=
      .one (by omega) (by omega)
    rwa [value] at su
  split
  · rename_i short
    have lead := byte (n := 0xC0 + unit / 64) (by omega)
    have low := byte (n := 0x80 + unit % 64) (by omega)
    have su : SpellsUnit [UInt8.ofNat (0xC0 + unit / 64), UInt8.ofNat (0x80 + unit % 64)] _ :=
      .two (by omega) (by omega) ⟨by omega, by omega⟩
    rw [lead, low] at su
    convert su using 1
    omega
  · rename_i long
    have lead := byte (n := 0xE0 + unit / 4096) (by omega)
    have middle := byte (n := 0x80 + unit / 64 % 64) (by omega)
    have low := byte (n := 0x80 + unit % 64) (by omega)
    have su : SpellsUnit [UInt8.ofNat (0xE0 + unit / 4096), UInt8.ofNat (0x80 + unit / 64 % 64),
        UInt8.ofNat (0x80 + unit % 64)] _ :=
      .three (by omega) (by omega) ⟨by omega, by omega⟩ ⟨by omega, by omega⟩
    rw [lead, middle, low] at su
    convert su using 1
    omega

/-- Code units are spelled by their encodings in a row. -/
lemma spells_flatMap_encodeUnit {units} (small : ∀ unit ∈ units, unit < 0x10000) :
    Spells (units.flatMap encodeUnit) units := by
  induction units with
  | nil => exact .nil
  | cons unit units ih =>
    rw [List.forall_mem_cons] at small
    exact .cons (spellsUnit_encodeUnit small.1) (ih small.2)

/-- A text is spelled by its encoding. -/
lemma spells_encode (text : String) : Spells (encode text) (text.toList.flatMap units16) := by
  rw [encode, ← List.flatMap_assoc]
  apply spells_flatMap_encodeUnit
  intro unit mem
  obtain ⟨c, -, mem⟩ := List.mem_flatMap.1 mem
  exact lt_of_mem_units16 mem

/-- Bytes that go on after an encoded text begin with a spelling of it. -/
lemma begins_encode_append (text rest) : Begins (encode text ++ rest) text :=
  ⟨_, rest, rfl, spells_encode text⟩

/-- Spelled units take at most three bytes each. -/
lemma Spells.le_length {spelled units} (sp : Spells spelled units) :
    spelled.length ≤ 3 * units.length := by
  induction sp with
  | nil => simp
  | cons su _ ih =>
    have := su.length
    simp only [List.length_cons, List.length_append]
    omega

/-- An encoded text takes one to three bytes for every code unit. -/
lemma length_encode (text : String) :
    length16 text ≤ (encode text).length ∧ (encode text).length ≤ 3 * length16 text :=
  ⟨(spells_encode text).length_le, (spells_encode text).le_length⟩

end DexTriage.Mutf8
