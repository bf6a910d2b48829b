import Mathlib
import DexTriage.Url.Scan

/-!
# Places where an address starts

`isQualified` says what a place looks like where an address starts: a known scheme in any case, its
mark, and some characters more. The scanner looks for the same places (`startsWithScheme_eq`,
`startsWithUrl_eq`).
-/

namespace DexTriage

namespace Unicode

/-- A code point is in ranges only if it is in one of them. -/
lemma Ranges.exists_of_contains {ranges : Ranges} {n} (contains : ranges.contains n = true) :
    ∃ range ∈ ranges, range.1 ≤ n ∧ n ≤ range.2 := by
  induction ranges with
  | nil => cases contains
  | cons range ranges ih =>
    rw [Ranges.contains] at contains
    split at contains
    · cases contains
    · rw [Bool.or_eq_true, decide_eq_true_iff] at contains
      obtain le | contains := contains
      · exact ⟨range, List.mem_cons_self, by omega, le⟩
      · obtain ⟨range', mem, inside⟩ := ih contains
        exact ⟨range', List.mem_cons_of_mem _ mem, inside⟩

/-- White space is no part of a word. -/
lemma isWord_of_isBlank {c} (blank : isBlank c = true) : isWord c = false := by
  have disjoint : ∀ range ∈ blankRanges, ∀ n ∈ List.range' range.1 (range.2 + 1 - range.1),
      wordRanges.contains n = false := by
    decide +kernel
  obtain ⟨range, mem, least, most⟩ := Ranges.exists_of_contains blank
  apply disjoint range mem
  rw [List.mem_range'_1]
  omega

/-- Only a capital letter, the long s and the Kelvin sign are folded, each to a small letter. -/
lemma foldAscii_cases (c : Char) : foldAscii c = c ∨
    (c = '\u017F' ∨ c = '\u212A' ∨ c.isUpper = true) ∧ (foldAscii c).isLower = true := by
  rw [foldAscii]
  split
  next long_s => exact .inr ⟨.inl long_s, rfl⟩
  split
  next kelvin => exact .inr ⟨.inr (.inl kelvin), rfl⟩
  by_cases upper : c.isUpper = true
  · refine .inr ⟨.inr (.inr upper), ?_⟩
    rw [Char.isLower_toLower_eq_isAlpha, Char.isAlpha, upper, Bool.true_or]
  · exact .inl (Char.toLower_eq_of_not_isUpper upper)

/-- What folds to something else than a small letter is that. -/
lemma eq_of_foldAscii_eq {c d} (fold : foldAscii c = d) (other : d.isLower = false) : c = d := by
  obtain same | ⟨-, lower⟩ := foldAscii_cases c
  · exact same.symm.trans fold
  · rw [fold, other] at lower
    cases lower

/-- What is left behind the start of a text that has another text, in any case, for its start. -/
lemma dropFolded?_eq_some_iff {start text rest : List Char} :
    dropFolded? start text = some rest ↔
      start <+: text.map foldAscii ∧ rest = text.drop start.length := by
  induction start generalizing text with
  | nil => simp [dropFolded?, eq_comm]
  | cons s start ih =>
    cases text with
    | nil => simp [dropFolded?]
    | cons c text =>
      rw [dropFolded?, List.map_cons, List.cons_prefix_cons, List.length_cons, List.drop_succ_cons]
      split
      next same => rw [ih, and_assoc, and_iff_right same.symm]
      next other => simp [Ne.symm other]

end Unicode

namespace Url

open Unicode

/-- What is no part of an address is no part of a word either. -/
lemma isWord_of_not_isUrlChar {c} (other : isUrlChar c = false) : isWord c = false := by
  rw [isUrlChar, Bool.not_eq_eq_eq_not, Bool.not_false] at other
  simp only [Bool.or_eq_true, decide_eq_true_iff] at other
  obtain (((blank | rfl) | rfl) | rfl) | rfl := other
  · exact isWord_of_isBlank blank
  all_goals rfl

/-- Capital letters can be part of an address. -/
lemma isUrlChar_of_isUpper {c : Char} (upper : c.isUpper = true) : isUrlChar c = true := by
  have capitals : ∀ n ∈ List.range' 65 26, isUrlChar (Char.ofNat n) = true := by decide
  rw [Char.isUpper, decide_eq_true_iff, ge_iff_le, UInt32.le_iff_toNat_le,
    UInt32.le_iff_toNat_le] at upper
  rw [← Char.ofNat_toNat c]
  apply capitals
  rw [List.mem_range'_1]
  exact ⟨upper.1, Nat.lt_succ_of_le upper.2⟩

/-- What folds to a part of an address can be one itself. -/
lemma isUrlChar_of_foldAscii {c} (part : isUrlChar (foldAscii c) = true) : isUrlChar c = true := by
  obtain same | ⟨rfl | rfl | upper, -⟩ := foldAscii_cases c
  · rwa [same] at part
  · rfl
  · rfl
  · exact isUrlChar_of_isUpper upper

/-- A scheme with its mark. -/
def marked (scheme : String) : List Char :=
  (scheme ++ schemeMark).toList

/-- Whether a text starts with a known scheme, in any case, and its mark, and goes on for at least
`more` characters. -/
def isQualified (more : Nat) (text : List Char) : Bool :=
  schemes.any fun scheme =>
    (marked scheme).isPrefixOf (text.map foldAscii) && (marked scheme).length + more ≤ text.length

/-- What it takes for a text to start with a known scheme. -/
lemma isQualified_iff {more text} :
    isQualified more text = true ↔ ∃ scheme ∈ schemes,
      marked scheme <+: text.map foldAscii ∧ (marked scheme).length + more ≤ text.length := by
  rw [isQualified, List.any_eq_true]
  simp only [Bool.and_eq_true, List.isPrefixOf_iff_prefix, decide_eq_true_iff]

/-- No known scheme with its mark starts with another one. -/
lemma eq_of_prefix_marked : ∀ scheme ∈ schemes, ∀ scheme' ∈ schemes,
    marked scheme <+: marked scheme' → scheme = scheme' := by
  decide +kernel

/-- Known schemes and their marks can be part of an address. -/
lemma isUrlChar_of_mem_marked {scheme c} (known : scheme ∈ schemes) (mem : c ∈ marked scheme) :
    isUrlChar c = true := by
  have parts : (schemes.all fun scheme => (marked scheme).all isUrlChar) = true := by
    decide +kernel
  exact List.all_eq_true.1 (List.all_eq_true.1 parts scheme known) c mem

/-- What is left of a text behind the known scheme that it starts with. -/
lemma dropScheme?_eq_some_iff {text rest} :
    dropScheme? text = some rest ↔ ∃ scheme ∈ schemes,
      marked scheme <+: text.map foldAscii ∧ rest = text.drop (marked scheme).length := by
  constructor
  · intro dropped
    obtain ⟨scheme, known, eq⟩ := List.exists_of_findSome?_eq_some dropped
    exact ⟨scheme, known, dropFolded?_eq_some_iff.1 eq⟩
  · rintro ⟨scheme, known, start, rfl⟩
    have found : (dropScheme? text).isSome = true := by
      rw [dropScheme?, List.findSome?_isSome_iff]
      exact ⟨scheme, known, Option.isSome_of_eq_some (dropFolded?_eq_some_iff.2 ⟨start, rfl⟩)⟩
    obtain ⟨rest, dropped⟩ := Option.isSome_iff_exists.1 found
    obtain ⟨scheme', known', eq⟩ := List.exists_of_findSome?_eq_some dropped
    obtain ⟨start', rfl⟩ := dropFolded?_eq_some_iff.1 eq
    -- the schemes are one, since a mark ends either of them
    have same : scheme = scheme' := by
      obtain shorter | shorter := List.prefix_or_prefix_of_prefix start start'
      · exact eq_of_prefix_marked scheme known scheme' known' shorter
      · exact (eq_of_prefix_marked scheme' known' scheme known shorter).symm
    rw [dropped, same]
    rfl

/-- The scanner looks for schemes where they are. -/
lemma startsWithScheme_eq (text) : startsWithScheme text = isQualified 0 text := by
  rw [Bool.eq_iff_iff, startsWithScheme, Option.isSome_iff_exists, isQualified_iff]
  constructor
  · rintro ⟨rest, dropped⟩
    obtain ⟨scheme, known, start, -⟩ := dropScheme?_eq_some_iff.1 dropped
    have le := start.length_le
    rw [List.length_map] at le
    exact ⟨scheme, known, start, le⟩
  · rintro ⟨scheme, known, start, -⟩
    exact ⟨_, dropScheme?_eq_some_iff.2 ⟨scheme, known, start, rfl⟩⟩

/-- What it takes for a text to start with an address. -/
lemma startsWithUrl_iff {text} :
    startsWithUrl text = true ↔ ∃ scheme ∈ schemes, ∃ start c rest, text = start ++ c :: rest ∧
      start.map foldAscii = marked scheme ∧ isUrlChar c = true := by
  constructor
  · intro starts
    rw [startsWithUrl] at starts
    split at starts
    next c rest dropped =>
      obtain ⟨scheme, known, start, eq⟩ := dropScheme?_eq_some_iff.1 dropped
      refine ⟨scheme, known, text.take (marked scheme).length, c, rest, ?_, ?_, starts⟩
      · rw [eq, List.take_append_drop]
      · rw [List.map_take, ← List.prefix_iff_eq_take.1 start]
    next => cases starts
  · rintro ⟨scheme, known, start, c, rest, rfl, fold, part⟩
    have dropped : dropScheme? (start ++ c :: rest) = some (c :: rest) := by
      refine dropScheme?_eq_some_iff.2 ⟨scheme, known, ?_, ?_⟩
      · rw [List.map_append, fold]
        exact List.prefix_append _ _
      · rw [← fold, List.length_map, List.drop_left]
    rw [startsWithUrl, dropped]
    exact part

/-- The scanner looks for addresses where they are: in the run of characters that can be part of
one, there is a known scheme and something behind it. -/
lemma startsWithUrl_eq (text) : startsWithUrl text = isQualified 1 (text.takeWhile isUrlChar) := by
  rw [Bool.eq_iff_iff, startsWithUrl_iff, isQualified_iff]
  constructor
  · rintro ⟨scheme, known, start, c, rest, rfl, fold, part⟩
    have parts : ∀ x ∈ start, isUrlChar x = true := by
      intro x mem
      apply isUrlChar_of_foldAscii
      apply isUrlChar_of_mem_marked known
      rw [← fold]
      exact List.mem_map_of_mem mem
    refine ⟨scheme, known, ?_⟩
    rw [List.takeWhile_append_of_pos parts, List.takeWhile_cons_of_pos part, List.map_append, fold,
      ← fold, List.length_map, List.length_append, List.length_cons]
    exact ⟨List.prefix_append _ _, by omega⟩
  · rintro ⟨scheme, known, start, longer⟩
    obtain ⟨c, rest, eq⟩ := List.exists_cons_of_length_pos
      (l := (text.takeWhile isUrlChar).drop (marked scheme).length)
      (by rw [List.length_drop]; omega)
    have run : text.takeWhile isUrlChar =
        (text.takeWhile isUrlChar).take (marked scheme).length ++ c :: rest := by
      rw [← eq, List.take_append_drop]
    refine ⟨scheme, known, (text.takeWhile isUrlChar).take (marked scheme).length, c,
      rest ++ text.dropWhile isUrlChar, ?_, ?_, ?_⟩
    · rw [← List.cons_append, ← List.append_assoc, ← run, List.takeWhile_append_dropWhile]
    · rw [List.map_take, ← List.prefix_iff_eq_take.1 start]
    · have mem : c ∈ text.takeWhile isUrlChar := by
        rw [run]
        exact List.mem_append_right _ List.mem_cons_self
      exact List.mem_takeWhile_imp mem

end Url

end DexTriage
