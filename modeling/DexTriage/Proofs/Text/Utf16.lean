import Mathlib
import DexTriage.Text.Utf16

/-!
# Texts and their code units

The code units of a character are either one unit that is no surrogate (`units16_ofNat`) or a high
surrogate before a low one (`units16_ofSurrogates`), and `units16_cases` says that there is no third
case. `Paired` describes the lists of code units in which surrogates occur only in such pairs;
`paired_iff` shows that these are exactly the code units of texts.
-/

namespace DexTriage

/-- A code unit that stands for a character of its own. -/
def IsScalarUnit (unit : Nat) : Prop :=
  unit < 0x10000 ∧ isHighSurrogate unit = false ∧ isLowSurrogate unit = false

/-- Lists of code units in which every surrogate belongs to a pair, the high one first. -/
inductive Paired : List Nat → Prop where
  | nil :
    Paired []
  | unit {unit units} :
    IsScalarUnit unit →
    Paired units →
    Paired (unit :: units)
  | pair {high low units} :
    isHighSurrogate high →
    isLowSurrogate low →
    Paired units →
    Paired (high :: low :: units)

/-- A unit that is no surrogate is the number of a character. -/
lemma IsScalarUnit.isValidChar {unit} (scalar : IsScalarUnit unit) : unit.isValidChar := by
  obtain ⟨small, high, low⟩ := scalar
  simp only [isHighSurrogate, isLowSurrogate, Bool.and_eq_false_iff, decide_eq_false_iff_not]
    at high low
  unfold Nat.isValidChar
  omega

/-- A character has the number that it was made of, if that is the number of a character. -/
lemma toNat_ofNat_of_isValidChar {n : Nat} (valid : n.isValidChar) : (Char.ofNat n).toNat = n := by
  rw [Char.ofNat, dif_pos valid]
  rfl

/-- The character of a unit that is no surrogate has that unit alone. -/
lemma units16_ofNat {unit} (scalar : IsScalarUnit unit) : units16 (Char.ofNat unit) = [unit] := by
  have number : (Char.ofNat unit).toNat = unit := toNat_ofNat_of_isValidChar scalar.isValidChar
  simp [units16, number, scalar.1]

/-- A surrogate pair gives the number of a character. -/
lemma isValidChar_of_surrogates {high low} (isHigh : isHighSurrogate high)
    (isLow : isLowSurrogate low) :
    (0x10000 + (high - 0xD800) * 0x400 + (low - 0xDC00)).isValidChar := by
  simp only [isHighSurrogate, isLowSurrogate, Bool.and_eq_true, decide_eq_true_eq] at isHigh isLow
  unfold Nat.isValidChar
  omega

/-- The character of a surrogate pair has that pair. -/
lemma units16_ofSurrogates {high low} (isHigh : isHighSurrogate high) (isLow : isLowSurrogate low) :
    units16 (ofSurrogates high low) = [high, low] := by
  have number := toNat_ofNat_of_isValidChar (isValidChar_of_surrogates isHigh isLow)
  simp only [isHighSurrogate, isLowSurrogate, Bool.and_eq_true, decide_eq_true_eq] at isHigh isLow
  rw [units16, ofSurrogates, number, if_neg (by omega), List.cons.injEq, List.cons.injEq]
  refine ⟨?_, ?_, rfl⟩
  · omega
  · omega

/-- The code units of a character are one unit that is no surrogate, or a surrogate pair. -/
lemma units16_cases (c : Char) :
    (∃ unit, IsScalarUnit unit ∧ Char.ofNat unit = c ∧ units16 c = [unit]) ∨
    (∃ high low, isHighSurrogate high ∧ isLowSurrogate low ∧
      ofSurrogates high low = c ∧ units16 c = [high, low]) := by
  have valid : c.toNat.isValidChar := c.valid
  unfold Nat.isValidChar at valid
  by_cases small : c.toNat < 0x10000
  · left
    refine ⟨c.toNat, ⟨small, ?_, ?_⟩, Char.ofNat_toNat c, by simp [units16, small]⟩
    · simp only [isHighSurrogate, Bool.and_eq_false_iff, decide_eq_false_iff_not]
      omega
    · simp only [isLowSurrogate, Bool.and_eq_false_iff, decide_eq_false_iff_not]
      omega
  · right
    refine ⟨0xD800 + (c.toNat - 0x10000) / 0x400, 0xDC00 + (c.toNat - 0x10000) % 0x400, ?_, ?_, ?_,
      by simp [units16, small]⟩
    · simp only [isHighSurrogate, Bool.and_eq_true, decide_eq_true_eq]
      omega
    · simp only [isLowSurrogate, Bool.and_eq_true, decide_eq_true_eq]
      omega
    · have number : 0x10000 + (0xD800 + (c.toNat - 0x10000) / 0x400 - 0xD800) * 0x400
          + (0xDC00 + (c.toNat - 0x10000) % 0x400 - 0xDC00) = c.toNat := by
        omega
      rw [ofSurrogates, number, Char.ofNat_toNat]

/-- Every code unit fits into sixteen bits. -/
lemma lt_of_mem_units16 {c unit} (mem : unit ∈ units16 c) : unit < 0x10000 := by
  obtain ⟨u, scalar, -, eq⟩ | ⟨high, low, isHigh, isLow, -, eq⟩ := units16_cases c
  · rw [eq, List.mem_singleton] at mem
    exact mem ▸ scalar.1
  · simp only [isHighSurrogate, isLowSurrogate, Bool.and_eq_true, decide_eq_true_eq] at isHigh isLow
    rw [eq, List.mem_pair] at mem
    omega

/-- The lists of code units with paired surrogates are the code units of texts. -/
theorem paired_iff {units} : Paired units ↔ ∃ chars : List Char, units = chars.flatMap units16 := by
  constructor
  · intro paired
    induction paired with
    | nil => exact ⟨[], rfl⟩
    | @unit unit _ scalar _ ih =>
      obtain ⟨chars, rfl⟩ := ih
      refine ⟨Char.ofNat unit :: chars, ?_⟩
      simp [units16_ofNat scalar]
    | @pair high low _ isHigh isLow _ ih =>
      obtain ⟨chars, rfl⟩ := ih
      refine ⟨ofSurrogates high low :: chars, ?_⟩
      simp [units16_ofSurrogates isHigh isLow]
  · rintro ⟨chars, rfl⟩
    induction chars with
    | nil => exact .nil
    | cons c chars ih =>
      rw [List.flatMap_cons]
      obtain ⟨unit, scalar, -, eq⟩ | ⟨high, low, isHigh, isLow, -, eq⟩ := units16_cases c
      · rw [eq]
        exact .unit scalar ih
      · rw [eq]
        exact .pair isHigh isLow ih

end DexTriage
