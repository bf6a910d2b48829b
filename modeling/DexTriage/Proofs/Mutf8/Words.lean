import Mathlib
import DexTriage.Image.Mutf8.Words
import DexTriage.Proofs.Mutf8.Spelling

/-!
# Words are wide enough for a text

The payload of the bytes of a code unit is put together bit by bit without overlap
(`shiftLeft_or_ofNat`), so that code units of 16 bits are read as they are without bounds
(`unitWord_eq`). A unit that is no surrogate, and every pair, gives the number of a character
(`pushWord_unit`, `pushWord_pair`). So a text is decoded in words as it is without bounds, and a
number is never found to be that of no character (`decodeWords?_eq`).
-/

namespace DexTriage.Mutf8

/-- Bits that are put in front of others are added to them. -/
lemma shiftLeft_or_ofNat {low shift : Nat} (narrow : shift < 16) (high : Nat)
    (small : low < 2 ^ shift) :
    UInt16.ofNat high <<< UInt16.ofNat shift ||| UInt16.ofNat low =
      UInt16.ofNat (high * 2 ^ shift + low) := by
  rw [← UInt16.ofNat_shiftLeft _ _ narrow, ← UInt16.ofNat_or,
    ← Nat.shiftLeft_add_eq_or_of_lt small, Nat.shiftLeft_eq]

/-- The payload that a byte has as a continuation byte and as a lead byte of two bytes or three, and
whether it is a continuation byte. -/
lemma payload_words (byte : UInt8) :
    (byte &&& 0x3F).toUInt16 = UInt16.ofNat (byte.toNat % 64) ∧
    byte.toUInt16 &&& 0x1F = UInt16.ofNat (byte.toNat % 32) ∧
    byte.toUInt16 &&& 0x0F = UInt16.ofNat (byte.toNat % 16) ∧
    (byte &&& 0xC0 = 0x80 ↔ isContinuation byte = true) := by
  have table : ∀ n < 256, ((UInt8.ofNat n &&& 0x3F).toUInt16 = UInt16.ofNat (n % 64) ∧
      (UInt8.ofNat n).toUInt16 &&& 0x1F = UInt16.ofNat (n % 32) ∧
      (UInt8.ofNat n).toUInt16 &&& 0x0F = UInt16.ofNat (n % 16) ∧
      (UInt8.ofNat n &&& 0xC0 = 0x80 ↔ isContinuation (UInt8.ofNat n) = true)) := by
    decide +kernel
  have entry := table byte.toNat byte.toNat_lt
  rwa [UInt8.ofNat_toNat] at entry

/-- Six bits are read in words as without bounds. -/
lemma continuationWord_eq (bytes : List UInt8) (position : Nat) :
    continuationWord bytes position =
      (continuation position (bytes.drop position)).map UInt16.ofNat := by
  rw [continuationWord, ← List.head?_drop]
  cases bytes.drop position with
  | nil => rfl
  | cons byte rest =>
    obtain ⟨payload, -, -, tag⟩ := payload_words byte
    simp only [List.head?_cons, continuation, tag, payload]
    split
    · rfl
    · rfl

/-- Where six bits are read, they are six. -/
lemma lt_of_continuation {position bytes payload}
    (read : continuation position bytes = .ok payload) : payload < 64 := by
  obtain ⟨byte, rest, -, ⟨lo, hi⟩, eq⟩ := Continues.of_continuation read
  omega

/-- A code unit is read in words as without bounds. -/
lemma unitWord_eq (bytes : List UInt8) (position : Nat) :
    unitWord bytes position = (unitAt position (bytes.drop position)).map fun read =>
      (UInt16.ofNat read.1, position + read.2) := by
  rw [unitWord, ← List.head?_drop]
  cases behind : bytes.drop position with
  | nil => rfl
  | cons lead rest =>
    have first : bytes.drop (position + 1) = rest := by
      rw [← List.drop_drop, behind, List.drop_succ_cons, List.drop_zero]
    have second : bytes.drop (position + 2) = rest.drop 1 := by
      rw [← List.drop_drop, behind, List.drop_succ_cons]
    obtain ⟨-, two, three, -⟩ := payload_words lead
    have nul : lead = 0x00 ↔ lead.toNat = 0 := UInt8.toNat_inj.symm
    have ascii : lead ≤ 0x7F ↔ lead.toNat < 0x80 := UInt8.le_iff_toNat_le.trans Nat.lt_succ_iff.symm
    have leadTwo : 0xC0 ≤ lead ∧ lead ≤ 0xDF ↔ ¬ lead.toNat < 0xC0 ∧ lead.toNat < 0xE0 := by
      rw [UInt8.le_iff_toNat_le, UInt8.le_iff_toNat_le, not_lt]
      exact and_congr_right' Nat.lt_succ_iff.symm
    have leadThree : 0xE0 ≤ lead ∧ lead ≤ 0xEF ↔ ¬ lead.toNat < 0xE0 ∧ lead.toNat < 0xF0 := by
      rw [UInt8.le_iff_toNat_le, UInt8.le_iff_toNat_le, not_lt]
      exact and_congr_right' Nat.lt_succ_iff.symm
    simp only [List.head?_cons, unitAt, continuationWord_eq, first, second, two, three, nul, ascii,
      leadTwo, leadThree]
    by_cases isNul : lead.toNat = 0
    · rw [if_pos isNul, if_pos isNul]
      rfl
    rw [if_neg isNul, if_neg isNul]
    by_cases isAscii : lead.toNat < 0x80
    · rw [if_pos isAscii, if_pos isAscii, ← UInt16.ofNat_uInt8ToNat]
      rfl
    rw [if_neg isAscii, if_neg isAscii]
    by_cases stray : lead.toNat < 0xC0
    · rw [if_pos stray, if_neg (by omega), if_neg (by omega)]
      rfl
    rw [if_neg stray]
    by_cases isTwo : lead.toNat < 0xE0
    · rw [if_pos isTwo, if_pos ⟨stray, isTwo⟩]
      cases readLow : continuation (position + 1) rest with
      | error e => rfl
      | ok low =>
        have group := shiftLeft_or_ofNat (by decide : 6 < 16) (lead.toNat % 32)
          (lt_of_continuation readLow)
        exact congrArg (fun unit => Except.ok (unit, position + 2)) group
    rw [if_neg isTwo, if_neg (by omega)]
    by_cases isThree : lead.toNat < 0xF0
    · rw [if_pos isThree, if_pos ⟨isTwo, isThree⟩]
      cases readMiddle : continuation (position + 1) rest with
      | error e => rfl
      | ok middle =>
        cases readLow : continuation (position + 2) (rest.drop 1) with
        | error e => rfl
        | ok low =>
          have small := lt_of_continuation readLow
          have small' := lt_of_continuation readMiddle
          have group := shiftLeft_or_ofNat (by decide : 6 < 16) middle small
          have group' := shiftLeft_or_ofNat (by decide : 12 < 16) (lead.toNat % 16)
            (by omega : middle * 2 ^ 6 + low < 2 ^ 12)
          rw [← group, ← UInt16.or_assoc, ← Nat.add_assoc] at group'
          exact congrArg (fun unit => Except.ok (unit, position + 3)) group'
    · rw [if_neg isThree, if_neg (by omega)]
      rfl

/-- A code unit fits into its word. -/
lemma toNat_word {unit : Nat} (small : unit < 0x10000) : (UInt16.ofNat unit).toNat = unit := by
  rw [UInt16.toNat_ofNat']
  exact Nat.mod_eq_of_lt small

/-- A high surrogate is told by its word. -/
lemma high_word_iff {unit : Nat} (small : unit < 0x10000) :
    0xD800 ≤ UInt16.ofNat unit ∧ UInt16.ofNat unit ≤ 0xDBFF ↔ isHighSurrogate unit = true := by
  rw [UInt16.le_iff_toNat_le, UInt16.le_iff_toNat_le, toNat_word small, isHighSurrogate,
    Bool.and_eq_true, decide_eq_true_eq, decide_eq_true_eq]
  rfl

/-- A low surrogate is told by its word. -/
lemma low_word_iff {unit : Nat} (small : unit < 0x10000) :
    0xDC00 ≤ UInt16.ofNat unit ∧ UInt16.ofNat unit ≤ 0xDFFF ↔ isLowSurrogate unit = true := by
  rw [UInt16.le_iff_toNat_le, UInt16.le_iff_toNat_le, toNat_word small, isLowSurrogate,
    Bool.and_eq_true, decide_eq_true_eq, decide_eq_true_eq]
  rfl

/-- The number of a character is taken for that character. -/
lemma pushWord_of_isValidChar {number : UInt32} (valid : number.toNat.isValidChar) (done position) :
    pushWord done position number = .ok (done.push (Char.ofNat number.toNat)) := by
  rw [pushWord, dif_pos valid]
  congr 2
  exact (Char.ofNat_toNat ⟨number, valid⟩).symm

/-- The number of a unit that is no surrogate is that of a character. -/
lemma pushWord_unit {unit} (scalar : IsScalarUnit unit) (done position) :
    pushWord done position (UInt16.ofNat unit).toUInt32 = .ok (done.push (Char.ofNat unit)) := by
  have number : (UInt16.ofNat unit).toUInt32.toNat = unit := by
    rw [UInt16.toNat_toUInt32, toNat_word scalar.1]
  rw [pushWord_of_isValidChar (by rw [number]; exact scalar.isValidChar), number]

/-- The number of a pair in words is its number without bounds. -/
lemma toNat_pairWord {high low : Nat} (isHigh : isHighSurrogate high) (isLow : isLowSurrogate low) :
    (pairWord (UInt16.ofNat high) (UInt16.ofNat low)).toNat =
      0x10000 + (high - 0xD800) * 0x400 + (low - 0xDC00) := by
  simp only [isHighSurrogate, isLowSurrogate, Bool.and_eq_true, decide_eq_true_eq] at isHigh isLow
  have highBits : (UInt16.ofNat high - 0xD800).toNat = high - 0xD800 := by
    rw [UInt16.toNat_sub_of_le, toNat_word (by omega)]
    · rfl
    · rw [UInt16.le_iff_toNat_le, toNat_word (by omega)]
      exact isHigh.1
  have lowBits : (UInt16.ofNat low - 0xDC00).toNat = low - 0xDC00 := by
    rw [UInt16.toNat_sub_of_le, toNat_word (by omega)]
    · rfl
    · rw [UInt16.le_iff_toNat_le, toNat_word (by omega)]
      exact isLow.1
  rw [pairWord, UInt32.toNat_add, UInt32.toNat_add, UInt32.toNat_shiftLeft, UInt16.toNat_toUInt32,
    UInt16.toNat_toUInt32, highBits, lowBits, Nat.shiftLeft_eq]
  change ((0x10000 + (high - 0xD800) * 2 ^ 10 % 2 ^ 32) % 2 ^ 32 + (low - 0xDC00)) % 2 ^ 32 = _
  omega

/-- The number of a pair is that of a character. -/
lemma pushWord_pair {high low} (isHigh : isHighSurrogate high) (isLow : isLowSurrogate low)
    (done position) :
    pushWord done position (pairWord (UInt16.ofNat high) (UInt16.ofNat low)) =
      .ok (done.push (ofSurrogates high low)) := by
  have number := toNat_pairWord isHigh isLow
  have valid : (pairWord (UInt16.ofNat high) (UInt16.ofNat low)).toNat.isValidChar := by
    rw [number]
    exact isValidChar_of_surrogates isHigh isLow
  rw [pushWord_of_isValidChar valid, number, ofSurrogates]

/-- A unit that is read without bounds is read in words. -/
lemma unitWord_ok {bytes position unit width}
    (read : unitAt position (bytes.drop position) = .ok (unit, width)) :
    (unitWord bytes position).mapError WordError.image =
      .ok (UInt16.ofNat unit, position + width) := by
  rw [unitWord_eq, read]
  rfl

/-- A unit that is refused without bounds is refused in words. -/
lemma unitWord_error {bytes position e}
    (refused : unitAt position (bytes.drop position) = .error e) :
    (unitWord bytes position).mapError WordError.image = .error (.image e) := by
  rw [unitWord_eq, refused]
  rfl

/-- A text is decoded on in words as without bounds. -/
lemma decodeWordsOnto_eq (bytes : List UInt8) (done : String) (position count : Nat) :
    decodeWordsOnto bytes done position count =
      (decodeOnto done position (bytes.drop position) count).mapError .image := by
  generalize same : bytes.drop position = behind
  fun_induction decodeOnto done position behind count with
  | case1 => rfl
  | case2 done position behind e refused =>
    subst same
    rw [decodeWordsOnto, unitWord_error refused]
    rfl
  | case3 done position behind unit width read high =>
    subst same
    have small := lt_of_unitAt read
    rw [decodeWordsOnto, unitWord_ok read, ok_bind]
    simp only [high_word_iff small, high, if_true]
    rfl
  | case4 done position behind unit width read high low =>
    subst same
    have small := lt_of_unitAt read
    rw [decodeWordsOnto, unitWord_ok read, ok_bind]
    simp only [high_word_iff small, low_word_iff small, high, low, if_true]
    rfl
  | case5 done position behind unit width read high low =>
    subst same
    have small := lt_of_unitAt read
    have scalar := isScalarUnit_of_unitAt read high low
    rw [decodeWordsOnto, unitWord_ok read, ok_bind]
    simp only [high_word_iff small, low_word_iff small, high, low,
      pushWord_unit scalar, ok_bind, decodeWordsOnto]
    rfl
  | case6 done position behind count e refused =>
    subst same
    rw [decodeWordsOnto, unitWord_error refused]
    rfl
  | case7 done position behind count unit width read high e refused =>
    subst same
    have small := lt_of_unitAt read
    rw [List.drop_drop] at refused
    rw [decodeWordsOnto, unitWord_ok read, ok_bind]
    simp only [high_word_iff small, high, if_true, unitWord_error refused]
    rfl
  | case8 done position behind count unit width read high low lowWidth readLow isLow ih =>
    subst same
    have small := lt_of_unitAt read
    have small' := lt_of_unitAt readLow
    rw [List.drop_drop] at readLow
    rw [decodeWordsOnto, unitWord_ok read, ok_bind]
    simp only [high_word_iff small, high, if_true, unitWord_ok readLow, ok_bind,
      low_word_iff small', isLow, pushWord_pair high isLow]
    rw [ih (by rw [List.drop_drop, Nat.add_assoc])]
  | case9 done position behind count unit width read high low lowWidth readLow isLow =>
    subst same
    have small := lt_of_unitAt read
    have small' := lt_of_unitAt readLow
    rw [List.drop_drop] at readLow
    rw [decodeWordsOnto, unitWord_ok read, ok_bind]
    simp only [high_word_iff small, high, if_true, unitWord_ok readLow, ok_bind,
      low_word_iff small', isLow]
    rfl
  | case10 done position behind count unit width read high low =>
    subst same
    have small := lt_of_unitAt read
    rw [decodeWordsOnto, unitWord_ok read, ok_bind]
    simp only [high_word_iff small, low_word_iff small, high, low, if_true]
    rfl
  | case11 done position behind count unit width read high low ih =>
    subst same
    have small := lt_of_unitAt read
    have scalar := isScalarUnit_of_unitAt read high low
    rw [decodeWordsOnto, unitWord_ok read, ok_bind]
    simp only [high_word_iff small, low_word_iff small, high, low, pushWord_unit scalar,
      ok_bind]
    exact ih (List.drop_drop ..).symm

/-- A text is decoded in words as without bounds: there is no number of no character. -/
lemma decodeWords?_eq (bytes : List UInt8) (count : Nat) :
    decodeWords? bytes count = (decode? bytes count).map (Except.mapError .image) := by
  rw [decodeWords?, decode?]
  split
  · rw [decodeWordsOnto_eq, List.drop_zero]
    rfl
  · rfl

end DexTriage.Mutf8
