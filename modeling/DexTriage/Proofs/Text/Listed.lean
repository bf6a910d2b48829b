import Mathlib
import DexTriage.Json.Token
import DexTriage.Text.Quoted

/-!
# Listed texts

A listed text can be read back (`unlisted?_listed`): `ShownReader` takes in one character after the
other, and what a character is shown as takes it from between two characters to behind the next one
(`Shows.read`), whether characters that extend the one before are named or not. Everything that a
listed text consists of can be shown (`isShown_listed`), and so nothing in it breaks a line.
-/

namespace DexTriage

namespace Unicode

/-- The characters at which a line or a paragraph ends. -/
def lineBreaks : List Char :=
  ['\n', '\x0b', '\x0c', '\r', '\x1c', '\x1d', '\x1e', '\x85', '\u2028', '\u2029']

/-- Whether a line or a paragraph ends at a character. -/
def isLineBreak (c : Char) : Bool :=
  lineBreaks.contains c

/-- No character that is shown as it is breaks a line. -/
lemma isLineBreak_of_isPrintable {c : Char} (printable : isPrintable c = true) :
    isLineBreak c = false := by
  have unprintable : (lineBreaks.all fun c => !isPrintable c) = true := by decide +kernel
  rw [isLineBreak, Bool.eq_false_iff]
  intro mem
  have not := List.all_eq_true.1 unprintable c (List.contains_iff_mem.1 mem)
  rw [printable] at not
  cases not

end Unicode

namespace Text

/-- A number is written digit by digit, the last one for the remainder. -/
lemma toDigits_induction {motive : Nat → Prop} {base : Nat} (two : 1 < base)
    (digit : ∀ n < base, motive n) (more : ∀ n, base ≤ n → motive (n / base) → motive n) (n : Nat) :
    motive n := by
  induction n using Nat.strong_induction_on with
  | _ n ih =>
    by_cases less : n < base
    · exact digit n less
    · have le := not_lt.1 less
      exact more n le (ih _ (Nat.div_lt_self (by omega) two))

/-- The characters of a number are digits. -/
lemma exists_digit_of_mem_toDigits {base n : Nat} {c : Char} (two : 1 < base)
    (mem : c ∈ Nat.toDigits base n) : ∃ d < base, c = Nat.digitChar d := by
  induction n using toDigits_induction two with
  | digit n less =>
    rw [Nat.toDigits_of_lt_base less, List.mem_singleton] at mem
    exact ⟨n, less, mem⟩
  | more n le ih =>
    rw [Nat.toDigits_of_base_le two le, List.mem_append, List.mem_singleton] at mem
    obtain mem | rfl := mem
    · exact ih mem
    · exact ⟨_, Nat.mod_lt _ (by omega), rfl⟩

/-- Everything in a text can be shown. -/
def IsShown (text : String) : Prop :=
  ∀ c ∈ text.toList, Unicode.isPrintable c = true

/-- A digit can be shown. -/
lemma isPrintable_digitChar {d : Nat} (less : d < 16) :
    Unicode.isPrintable (Nat.digitChar d) = true := by
  have digits : ∀ d < 16, Unicode.isPrintable (Nat.digitChar d) = true := by decide
  exact digits d less

/-- A text of which each character can be shown. -/
lemma isShown_of_all {text : String} (all : text.toList.all Unicode.isPrintable = true) :
    IsShown text :=
  List.all_eq_true.1 all

/-- Texts that can be shown can be shown one behind the other. -/
lemma IsShown.append {text text' : String} (isShown : IsShown text) (isShown' : IsShown text') :
    IsShown (text ++ text') := by
  intro c mem
  rw [String.toList_append, List.mem_append] at mem
  obtain mem | mem := mem
  · exact isShown c mem
  · exact isShown' c mem

/-- The digits of a number can be shown. -/
lemma isShown_toDigits {base : Nat} (two : 1 < base) (le : base ≤ 16) (n : Nat) :
    IsShown (String.ofList (Nat.toDigits base n)) := by
  intro c mem
  rw [String.toList_ofList] at mem
  obtain ⟨d, less, rfl⟩ := exists_digit_of_mem_toDigits two mem
  exact isPrintable_digitChar (less.trans_le le)

/-- What the machine that reads a shown text is in the middle of. -/
inductive ShownMode where
  /-- Between two characters. -/
  | between
  /-- Behind a backslash. -/
  | escape
  /-- Before the brace of a code point. -/
  | opening
  /-- Within the digits of a code point. -/
  | digits (value : Nat)

/-- The machine that reads a shown text: the characters so far, the last one first, and what it is in
the middle of. -/
structure ShownReader where
  done : List Char
  mode : ShownMode

/-- The character that is named behind a backslash. -/
def escapedBy : Char → Char
  | '0' => '\x00'
  | 't' => '\t'
  | 'r' => '\r'
  | 'n' => '\n'
  | c => c

/-- Takes in a character. -/
def ShownReader.step : ShownReader → Char → Option ShownReader
  | ⟨done, .between⟩, c => some (if c = '\\' then ⟨done, .escape⟩ else ⟨c :: done, .between⟩)
  | ⟨done, .escape⟩, c =>
    some (if c = 'u' then ⟨done, .opening⟩ else ⟨escapedBy c :: done, .between⟩)
  | ⟨done, .opening⟩, c => if c = '\x7b' then some ⟨done, .digits 0⟩ else none
  | ⟨done, .digits value⟩, c =>
    if c = '\x7d' then some ⟨Char.ofNat value :: done, .between⟩
    else (Json.hexDigit? c).map fun digit => ⟨done, .digits (16 * value + digit)⟩

/-- The text that is shown as the given one. -/
def unlisted? (shown : String) : Option String :=
  match shown.toList.foldlM ShownReader.step ⟨[], .between⟩ with
  | some ⟨done, .between⟩ => some (String.ofList done.reverse)
  | _ => none

/-- A digit adds to a code point. -/
lemma step_digit (done : List Char) (value : Nat) {d : Nat} (less : d < 16) :
    ShownReader.step ⟨done, .digits value⟩ (Nat.digitChar d) =
      some ⟨done, .digits (16 * value + d)⟩ := by
  have digits : ∀ d < 16, Nat.digitChar d ≠ '\x7d' ∧ Json.hexDigit? (Nat.digitChar d) = some d := by
    decide
  obtain ⟨inside, digit⟩ := digits d less
  rw [ShownReader.step, if_neg inside, digit]
  rfl

/-- The digits of a number are read as that number. -/
lemma read_toDigits (done : List Char) (n : Nat) :
    (Nat.toDigits 16 n).foldlM ShownReader.step ⟨done, .digits 0⟩ = some ⟨done, .digits n⟩ := by
  induction n using toDigits_induction (by decide : 1 < 16) with
  | digit n less =>
    rw [Nat.toDigits_of_lt_base less, List.foldlM_cons, step_digit done 0 less]
    simp
  | more n le ih =>
    rw [Nat.toDigits_of_base_le (by decide) le, List.foldlM_append, ih]
    have step := step_digit done (n / 16) (Nat.mod_lt n (by decide : 16 > 0))
    rw [Nat.div_add_mod] at step
    simp [step]

/-- A character that is named by its code point is read back. -/
lemma read_codePoint (done : List Char) (c : Char) :
    (codePoint c).foldlM ShownReader.step ⟨done, .between⟩ = some ⟨c :: done, .between⟩ := by
  have opened : ['\\', 'u', '\x7b'].foldlM ShownReader.step ⟨done, .between⟩ =
      some ⟨done, .digits 0⟩ := rfl
  have closed : ShownReader.step ⟨done, .digits c.toNat⟩ '\x7d' =
      some ⟨c :: done, .between⟩ := by
    rw [ShownReader.step, if_pos rfl, Char.ofNat_toNat]
  rw [codePoint, List.foldlM_append, List.foldlM_append, opened]
  simp [read_toDigits, closed]

/-- What names a code point can be shown. -/
lemma isPrintable_of_mem_codePoint {c d : Char} (mem : d ∈ codePoint c) :
    Unicode.isPrintable d = true := by
  rw [codePoint, List.mem_append, List.mem_append] at mem
  obtain (mem | mem) | mem := mem
  · exact List.all_eq_true.1 (by decide : ['\\', 'u', '\x7b'].all Unicode.isPrintable) d mem
  · obtain ⟨d, less, rfl⟩ := exists_digit_of_mem_toDigits (by decide) mem
    exact isPrintable_digitChar less
  · rw [List.mem_singleton.1 mem]
    decide

/-- The quotation marks that are escaped in a listing. -/
abbrev listedMarks : List Char := ['"', '\'']

/-- What a character can be shown as in a listing: itself, a letter behind a backslash, or its code
point. -/
inductive Shows : Char → List Char → Prop where
  | itself {c} :
    c ≠ '\\' →
    Unicode.isPrintable c = true →
    Shows c [c]
  | named {letter} :
    letter ≠ 'u' →
    Unicode.isPrintable letter = true →
    Shows (escapedBy letter) ['\\', letter]
  | point {c} :
    Shows c (codePoint c)

/-- Every character is shown in one of these ways, wherever it stands. -/
lemma shows_shown (extending : Bool) (c : Char) : Shows c (shown listedMarks extending c) := by
  rw [shown]
  split_ifs with nul tab turn feed marked extender printable
  · subst nul
    exact @Shows.named '0' (by decide) (by decide)
  · subst tab
    exact @Shows.named 't' (by decide) (by decide)
  · subst turn
    exact @Shows.named 'r' (by decide) (by decide)
  · subst feed
    exact @Shows.named 'n' (by decide) (by decide)
  · have one : c = '\\' ∨ c = '"' ∨ c = '\'' := by simpa using marked
    obtain rfl | rfl | rfl := one
    · exact @Shows.named '\\' (by decide) (by decide)
    · exact @Shows.named '"' (by decide) (by decide)
    · exact @Shows.named '\'' (by decide) (by decide)
  · exact .point
  · refine .itself ?_ printable
    rintro rfl
    exact marked rfl
  · exact .point

/-- What a character is shown as is read back as that character. -/
lemma Shows.read {c shown} (form : Shows c shown) (done : List Char) :
    shown.foldlM ShownReader.step ⟨done, .between⟩ = some ⟨c :: done, .between⟩ := by
  cases form with
  | itself other _ =>
    rw [List.foldlM_cons, ShownReader.step, if_neg other]
    rfl
  | named other _ =>
    have escape : ShownReader.step ⟨done, .between⟩ '\\' = some ⟨done, .escape⟩ := rfl
    rw [List.foldlM_cons, escape, Option.bind_eq_bind, Option.bind_some, List.foldlM_cons,
      ShownReader.step, if_neg other]
    rfl
  | point => exact read_codePoint done c

/-- What a character is shown as can be shown. -/
lemma Shows.isPrintable {c shown d} (form : Shows c shown) (mem : d ∈ shown) :
    Unicode.isPrintable d = true := by
  cases form with
  | itself _ printable => rwa [List.mem_singleton.1 mem]
  | named _ printable =>
    obtain rfl | mem := List.mem_cons.1 mem
    · decide
    · rwa [List.mem_singleton.1 mem]
  | point => exact isPrintable_of_mem_codePoint mem

/-- Characters that are shown one behind the other are read back in their order. -/
lemma read_flatMap_shown (extending : Bool) (chars done : List Char) :
    (chars.flatMap (shown listedMarks extending)).foldlM ShownReader.step ⟨done, .between⟩ =
      some ⟨chars.reverse ++ done, .between⟩ := by
  induction chars generalizing done with
  | nil => rfl
  | cons c chars ih =>
    rw [List.flatMap_cons, List.foldlM_append, (shows_shown extending c).read, List.reverse_cons,
      List.append_assoc]
    exact ih (c :: done)

/-- The characters of a listed text. -/
lemma toList_listed (text : String) :
    (listed text).toList =
      (text.toList.take 1).flatMap (shown listedMarks true) ++
        (text.toList.drop 1).flatMap (shown listedMarks false) := by
  rw [listed]
  split
  case h_1 empty => rw [empty]; rfl
  case h_2 c rest first => rw [first, String.toList_ofList]; simp

/-- A listed text is read back. -/
lemma unlisted?_listed (text : String) : unlisted? (listed text) = some text := by
  rw [unlisted?, toList_listed, List.foldlM_append, read_flatMap_shown, Option.bind_eq_bind,
    Option.bind_some, read_flatMap_shown, List.append_nil, ← List.reverse_append,
    List.take_append_drop]
  simp

/-- No two texts are listed as the same one. -/
lemma listed_injective : Function.Injective listed := by
  intro text text' same
  have read := unlisted?_listed text
  rw [same, unlisted?_listed] at read
  exact (Option.some.inj read).symm

/-- Everything in a listed text can be shown. -/
lemma isShown_listed (text : String) : IsShown (listed text) := by
  intro d mem
  rw [toList_listed, List.mem_append, List.mem_flatMap, List.mem_flatMap] at mem
  obtain ⟨c, -, mem⟩ | ⟨c, -, mem⟩ := mem
  · exact (shows_shown true c).isPrintable mem
  · exact (shows_shown false c).isPrintable mem

end Text

end DexTriage
