import Mathlib
import DexTriage.Proofs.Mutf8.Encode

/-!
# What is encoded is read back

Every encoded text is read back, whatever is behind it, and no two texts have the same encoding
(`decode_encode_append`). An encoding can be told by its bytes: it has no zero byte and none of
`0xF0` or above (`byte_of_mem_encode`), every code unit has one byte outside the range of
continuation bytes, which it starts with (`countP_encode`), and the encoding is the UTF-8 of the
text exactly if the two spell each of its characters in the same way (`encode_eq_toUTF8_iff`).
-/

namespace DexTriage.Mutf8

/-- A byte outside the range in which continuation bytes lie. -/
def isLead (byte : UInt8) : Bool :=
  byte < 0x80 || 0xBF < byte

/-- A byte is a lead byte if it does not go on with a unit. -/
lemma isLead_eq_true_iff {byte : UInt8} : isLead byte = true ↔ ¬ Continues byte := by
  simp only [isLead, Continues, Bool.or_eq_true, decide_eq_true_eq, UInt8.lt_iff_toNat_lt]
  change byte.toNat < 128 ∨ 191 < byte.toNat ↔ _
  omega

/-- A spelled unit starts with the only byte of it that is a lead byte. -/
lemma SpellsUnit.countP_isLead {spelled unit} (su : SpellsUnit spelled unit) :
    spelled.countP isLead = 1 := by
  have starts {a : UInt8} (outside : a.toNat < 0x80 ∨ 0xBF < a.toNat) : isLead a = true :=
    isLead_eq_true_iff.2 fun ⟨lo, hi⟩ => by omega
  have goesOn {b : UInt8} (cont : Continues b) : isLead b = false :=
    Bool.eq_false_iff.2 fun lead => isLead_eq_true_iff.1 lead cont
  cases su with
  | one _ hi => simp [starts (.inl (Nat.lt_succ_of_le hi))]
  | two lo _ cont => simp [starts (.inr lo), goesOn cont]
  | three lo _ cont cont' =>
    simp [starts (.inr (Nat.lt_of_lt_of_le (by decide) lo)), goesOn cont, goesOn cont']

/-- The bytes of a spelled unit lie between zero and `0xF0`. -/
lemma SpellsUnit.byte_of_mem {spelled unit} (su : SpellsUnit spelled unit) :
    ∀ byte ∈ spelled, 0 < byte.toNat ∧ byte.toNat < 0xF0 := by
  cases su with
  | one lo hi =>
    rw [List.forall_mem_singleton]
    omega
  | two lo hi cont =>
    obtain ⟨_, _⟩ := cont
    rw [List.forall_mem_cons, List.forall_mem_singleton]
    omega
  | three lo hi cont cont' =>
    obtain ⟨_, _⟩ := cont
    obtain ⟨_, _⟩ := cont'
    rw [List.forall_mem_cons, List.forall_mem_cons, List.forall_mem_singleton]
    omega

/-- Spelled units have one lead byte each. -/
lemma Spells.countP_isLead {spelled units} (sp : Spells spelled units) :
    spelled.countP isLead = units.length := by
  induction sp with
  | nil => rfl
  | cons su _ ih =>
    rw [List.countP_append, su.countP_isLead, ih, List.length_cons, Nat.add_comm]

/-- The bytes of spelled units lie between zero and `0xF0`. -/
lemma Spells.byte_of_mem {spelled units} (sp : Spells spelled units) :
    ∀ byte ∈ spelled, 0 < byte.toNat ∧ byte.toNat < 0xF0 := by
  induction sp with
  | nil => exact nofun
  | cons su _ ih => exact List.forall_mem_append.2 ⟨su.byte_of_mem, ih⟩

/-- An encoded text has a lead byte for every code unit. -/
lemma countP_encode (text : String) : (encode text).countP isLead = length16 text :=
  (spells_encode text).countP_isLead

/-- The bytes of an encoded text lie between zero and `0xF0`. -/
lemma byte_of_mem_encode {text byte} (mem : byte ∈ encode text) :
    0 < byte.toNat ∧ byte.toNat < 0xF0 :=
  (spells_encode text).byte_of_mem byte mem

/-- The UTF-8 of a text is that of its characters. -/
lemma toList_toUTF8 (text : String) :
    text.toUTF8.data.toList = text.toList.flatMap String.utf8EncodeChar := by
  obtain ⟨chars, rfl⟩ : ∃ chars, text = String.ofList chars :=
    ⟨text.toList, String.ofList_toList.symm⟩
  simp [String.toUTF8, List.utf8Encode]

/-- A character of the basic multilingual plane that is not zero. -/
def IsPlain (c : Char) : Prop :=
  c ≠ '\x00' ∧ c.toNat ≤ 0xFFFF

/-- A plain character is encoded as it is in UTF-8. -/
lemma encode_of_isPlain {c : Char} (plain : IsPlain c) :
    (units16 c).flatMap encodeUnit = String.utf8EncodeChar c := by
  obtain ⟨nonzero, low⟩ := plain
  have positive : 0 < c.toNat := Nat.pos_of_ne_zero fun zero => nonzero (Char.toNat_inj.1 zero)
  rw [units16, if_pos (by omega), List.flatMap_singleton, encodeUnit, String.utf8EncodeChar]
  change _ = if c.toNat ≤ 127 then _ else if c.toNat ≤ 2047 then _ else if c.toNat ≤ 65535 then _ else _
  by_cases ascii : c.toNat ≤ 127
  · rw [if_pos ⟨positive, by omega⟩, if_pos ascii]
    rfl
  rw [if_neg (by omega), if_neg ascii]
  by_cases short : c.toNat ≤ 2047
  · have top : 0xC0 + c.toNat / 64 = c.toNat / 64 % 32 + 192 := by omega
    rw [if_pos (by omega), if_pos short, top, Nat.add_comm 0x80]
    rfl
  · have top : 0xE0 + c.toNat / 4096 = c.toNat / 4096 % 16 + 224 := by omega
    rw [if_neg (by omega), if_neg short, if_pos low, top, Nat.add_comm 0x80, Nat.add_comm 0x80]
    rfl

/-- A character that is not plain has a byte in UTF-8 that no encoded text has. -/
lemma exists_byte_of_not_isPlain {c : Char} (strange : ¬ IsPlain c) :
    ∃ byte ∈ String.utf8EncodeChar c, byte.toNat = 0 ∨ 0xF0 ≤ byte.toNat := by
  by_cases zero : c = '\x00'
  · subst zero
    exact ⟨0, by decide, .inl rfl⟩
  · have high : ¬ c.val.toNat ≤ 65535 := fun low => strange ⟨zero, low⟩
    refine ⟨UInt8.ofNat (c.val.toNat / 262144 % 8 + 240), ?_, .inr ?_⟩
    · rw [String.utf8EncodeChar, if_neg (by omega), if_neg (by omega), if_neg high]
      exact List.mem_cons_self
    · rw [UInt8.toNat_ofNat']
      omega

/-- An encoded text is in UTF-8 exactly if all of its characters are plain. -/
lemma encode_eq_toUTF8_iff {text : String} :
    encode text = text.toUTF8.data.toList ↔ ∀ c ∈ text.toList, IsPlain c := by
  rw [toList_toUTF8]
  constructor
  · intro same c mem
    by_contra strange
    obtain ⟨byte, memByte, extreme⟩ := exists_byte_of_not_isPlain strange
    have written : byte ∈ encode text := same ▸ List.mem_flatMap.2 ⟨c, mem, memByte⟩
    have := byte_of_mem_encode written
    omega
  · intro plain
    exact List.flatMap_congr fun c mem => encode_of_isPlain (plain c mem)

/-- No two texts have the same encoding. -/
lemma encode_injective : Function.Injective encode := by
  intro first second same
  have read := decode_eq_ok_iff.2 ⟨rfl, begins_encode_append first []⟩
  have read' := decode_eq_ok_iff.2 ⟨rfl, begins_encode_append second []⟩
  rw [← countP_encode, same, countP_encode, read', Except.ok.injEq] at read
  exact read.symm

/-- A character has at least as many bytes in UTF-8 as it has code units. -/
lemma length_units16_le (c : Char) : (units16 c).length ≤ (String.utf8EncodeChar c).length := by
  by_cases low : c.toNat < 0x10000
  · rw [units16, if_pos low, List.length_singleton]
    exact List.length_pos_of_ne_nil String.utf8EncodeChar_ne_nil
  · have high : ¬ c.val.toNat ≤ 65535 := fun le => low (Nat.lt_succ_of_le le)
    rw [units16, if_neg low, String.utf8EncodeChar, if_neg (by omega), if_neg (by omega),
      if_neg high]
    simp

/-- A text has at least as many bytes in UTF-8 as it has code units. -/
lemma length16_le_utf8ByteSize (text : String) : length16 text ≤ text.utf8ByteSize := by
  have size : text.utf8ByteSize = (text.toList.flatMap String.utf8EncodeChar).length := by
    rw [← toList_toUTF8]
    rfl
  rw [size, length16, List.length_flatMap, List.length_flatMap]
  exact List.sum_le_sum fun c _ => length_units16_le c

/-- An encoded text is read back, whatever is behind it, also where the room for it has to be made
first, if the text itself has room. No byte of it is zero or `0xF0` or above, one byte for every
code unit lies outside the range of continuation bytes, it is the UTF-8 of the text exactly if the
text has neither the character zero nor one outside the basic multilingual plane, and it is the
encoding of no other text. -/
theorem decode_encode_append (text : String) (rest : List UInt8) :
    decode (encode text ++ rest) (length16 text) = .ok text ∧
    (text.utf8ByteSize ≤ capacity →
      decode? (encode text ++ rest) (length16 text) = some (.ok text)) ∧
    (∀ byte ∈ encode text, byte ≠ 0x00 ∧ byte < 0xF0) ∧
    (encode text).countP isLead = length16 text ∧
    (encode text = text.toUTF8.data.toList ↔
      ∀ c ∈ text.toList, c ≠ '\x00' ∧ c.toNat ≤ 0xFFFF) ∧
    (∀ other, encode other = encode text → other = text) := by
  have read : decode (encode text ++ rest) (length16 text) = .ok text :=
    decode_eq_ok_iff.2 ⟨rfl, begins_encode_append text rest⟩
  refine ⟨read, ?_, ?_, countP_encode text, encode_eq_toUTF8_iff, fun other same =>
    encode_injective same⟩
  · intro room
    have := length16_le_utf8ByteSize text
    rw [decode?, if_pos (by omega), read]
  · intro byte mem
    obtain ⟨positive, small⟩ := byte_of_mem_encode mem
    refine ⟨?_, UInt8.lt_iff_toNat_lt.2 small⟩
    rintro rfl
    exact absurd positive (by decide)

/-- A character in two bytes, the character zero and a surrogate pair, before a byte of no text. -/
theorem decode_encode_zero_and_pair :
    decode [0xC3, 0xA9, 0xC0, 0x80, 0xED, 0xA0, 0xBD, 0xED, 0xB8, 0x80, 0xFF] 4 = .ok "é\x00😀" ∧
    decode? [0xC3, 0xA9, 0xC0, 0x80, 0xED, 0xA0, 0xBD, 0xED, 0xB8, 0x80, 0xFF] 4 =
      some (.ok "é\x00😀") ∧
    ((0xED : UInt8) ≠ 0x00 ∧ (0xED : UInt8) < 0xF0) ∧
    [0xC3, 0xA9, 0xC0, 0x80, 0xED, 0xA0, 0xBD, 0xED, 0xB8, 0x80].countP isLead = 4 ∧
    ¬ [0xC3, 0xA9, 0xC0, 0x80, 0xED, 0xA0, 0xBD, 0xED, 0xB8, 0x80] =
      "é\x00😀".toUTF8.data.toList := by
  have encoded : encode "é\x00😀" =
      [0xC3, 0xA9, 0xC0, 0x80, 0xED, 0xA0, 0xBD, 0xED, 0xB8, 0x80] := by decide
  have units : length16 "é\x00😀" = 4 := by decide
  obtain ⟨read, room, bytes, leads, plain, -⟩ := decode_encode_append "é\x00😀" [0xFF]
  rw [encoded, units] at read room leads
  rw [encoded] at bytes plain
  refine ⟨read, room (by decide), bytes 0xED (by decide), leads, fun same => ?_⟩
  exact (plain.1 same '\x00' (by decide)).1 rfl

end DexTriage.Mutf8
