import Mathlib.Data.String.Basic
import DexTriage.Url.Scan

/-!
# Addresses by their offsets

Looking through a text tells where something starts and ends, as a number of bytes. The addresses
are then cut out of the text between these offsets, and shortened by as many bytes as their last
character has. A text can only be cut between two characters: `slice?` refuses every other offset,
and `findBySlices?` has no result when that happens anywhere.
-/

namespace DexTriage.Url

/-- The part of a text between two offsets where characters start or the text ends. -/
def slice? (text : String) (start stop : Nat) : Option String :=
  if valid : String.Pos.Raw.IsValid text ⟨start⟩ ∧ String.Pos.Raw.IsValid text ⟨stop⟩ ∧
      start ≤ stop then
    some (text.slice (text.pos _ valid.1) (text.pos _ valid.2.1) valid.2.2).copy
  else
    none

/-- A slice is a part of the text, with as many bytes before it and in it as the offsets say. -/
theorem slice?_eq_some_iff {text start stop piece} : slice? text start stop = some piece ↔
    ∃ before after, text = before ++ (piece ++ after) ∧ start = before.utf8ByteSize ∧
      stop = start + piece.utf8ByteSize := by
  constructor
  · intro cut
    rw [slice?, Option.dite_none_right_eq_some] at cut
    obtain ⟨valid, eq⟩ := cut
    obtain ⟨before, after, first, last⟩ :=
      String.copy_slice_eq_iff_splits.1 ⟨valid.2.2, Option.some.inj eq⟩
    have start_eq : start = before.utf8ByteSize :=
      congrArg String.Pos.Raw.byteIdx first.offset_eq_rawEndPos
    have stop_eq : stop = (before ++ piece).utf8ByteSize :=
      congrArg String.Pos.Raw.byteIdx last.offset_eq_rawEndPos
    rw [String.utf8ByteSize_append, ← start_eq] at stop_eq
    exact ⟨before, after, first.eq_append, start_eq, stop_eq⟩
  · rintro ⟨before, after, whole, rfl, rfl⟩
    have whole' : text = (before ++ piece) ++ after := whole.trans String.append_assoc.symm
    have size : before.utf8ByteSize + piece.utf8ByteSize = (before ++ piece).utf8ByteSize :=
      String.utf8ByteSize_append.symm
    have start_valid : String.Pos.Raw.IsValid text ⟨before.utf8ByteSize⟩ :=
      String.Pos.Raw.isValid_iff_exists_append.2 ⟨before, _, whole, rfl⟩
    have stop_valid : String.Pos.Raw.IsValid text ⟨before.utf8ByteSize + piece.utf8ByteSize⟩ :=
      String.Pos.Raw.isValid_iff_exists_append.2 ⟨_, after, whole', congrArg _ size⟩
    have first : (text.pos _ start_valid).Splits before (piece ++ after) := ⟨whole, rfl⟩
    have last : (text.pos _ stop_valid).Splits (before ++ piece) after :=
      ⟨whole', congrArg _ size⟩
    obtain ⟨_, eq⟩ := String.copy_slice_eq_iff_splits.2 ⟨before, after, first, last⟩
    rw [slice?, dif_pos ⟨start_valid, stop_valid, Nat.le_add_right _ _⟩, eq]

/-- Where the stretches of a text start and end that start with an address. -/
def spans : (inWord : Bool) → (offset : Nat) → List Char → List (Nat × Nat)
  | _, _, [] => []
  | inWord, offset, c :: text =>
    if !inWord && startsWithUrl (c :: text) then
      let stop := offset + String.utf8Len (c :: text.takeWhile isUrlChar)
      (offset, stop) :: spans false stop (text.dropWhile isUrlChar)
    else
      spans (Unicode.isWord c) (offset + c.utf8Size) text
termination_by _ _ text => text.length
decreasing_by
  · exact Nat.lt_succ_of_le (List.dropWhile_suffix isUrlChar).length_le
  · exact Nat.lt_succ_self _

/-- The length of the known scheme, and its mark, that a text starts with. -/
def schemeLength (text : List Char) : Nat :=
  match dropScheme? text with
  | some rest => text.length - rest.length
  | none => 0

/-- Where the separators are that directly precede a scheme. The search goes on behind the
scheme. -/
def separators (offset : Nat) : List Char → List Nat
  | [] => []
  | c :: text =>
    if isSeparator c && startsWithScheme text then
      offset :: separators (offset + String.utf8Len (c :: text.take (schemeLength text)))
        (text.drop (schemeLength text))
    else
      separators (offset + c.utf8Size) text
termination_by text => text.length
decreasing_by
  · exact Nat.lt_succ_of_le (List.drop_suffix _ _).length_le
  · exact Nat.lt_succ_self _

/-- The parts of a text between separators of a single byte. -/
def cutAt? (text : String) : (start : Nat) → (separators : List Nat) → Option (List String)
  | start, [] => return [← slice? text start text.utf8ByteSize]
  | start, separator :: others => do
    let piece ← slice? text start separator
    return piece :: (← cutAt? text (separator + 1) others)

/-- A text is shorter without its last character. -/
theorem utf8ByteSize_lt_of_slice? {text last shorter} (some_last : text.toList.getLast? = some last)
    (cut : slice? text 0 (text.utf8ByteSize - last.utf8Size) = some shorter) :
    shorter.utf8ByteSize < text.utf8ByteSize := by
  obtain ⟨_, _, -, -, size⟩ := slice?_eq_some_iff.1 cut
  have some_byte : text.utf8ByteSize ≠ 0 := by
    rw [Ne, String.utf8ByteSize_eq_zero_iff]
    rintro rfl
    cases some_last
  rw [Nat.zero_add] at size
  rw [← size]
  exact Nat.sub_lt (Nat.pos_of_ne_zero some_byte) last.utf8Size_pos

/-- A text without its trailing punctuation, which is cut off character by character. -/
def trimBySlices? (text : String) : Option String :=
  match some_last : text.toList.getLast? with
  | none => some text
  | some last =>
    if trailingPunctuation.contains last && !closesBracket last text.toList then
      match cut : slice? text 0 (text.utf8ByteSize - last.utf8Size) with
      | none => none
      | some shorter =>
        have := utf8ByteSize_lt_of_slice? some_last cut
        trimBySlices? shorter
    else
      some text
termination_by text.utf8ByteSize

/-- The addresses within a stretch that starts with one. -/
def addressesBySlices? (stretch : String) : Option (List String) := do
  let pieces ← cutAt? stretch 0 (separators 0 stretch.toList)
  let urls ← pieces.mapM trimBySlices?
  return urls.filter fun url => !schemeMark.toList.isSuffixOf url.toList

/-- The addresses within a text, in order. -/
def ofTextBySlices? (text : String) : Option (List String) := do
  let stretches ← (spans false 0 text.toList).mapM fun span => slice? text span.1 span.2
  return (← stretches.mapM addressesBySlices?).flatten

/-- The addresses within any of the texts, each where it is first seen. -/
def findBySlices? (texts : List String) : Option (List String) := do
  return (← texts.mapM ofTextBySlices?).flatten.eraseDups

end DexTriage.Url
