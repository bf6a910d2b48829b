import Mathlib
import DexTriage.Json.Number
import DexTriage.Proofs.Text.Listed

/-!
# How a number is written

A number is a sign, digits, a fraction and an exponent, each written in its own way
(`Number.Spells`). A text is read as a number exactly if it spells that number
(`Number.ofChars?_eq_some_iff`); the marks of the parts keep them apart, since none of them is a
digit. A natural number is written in its digits, which read back as that number
(`Number.toNat?_ofNat`), and if it fits into 64 bits it stays finite as floating point
(`Number.isFinite_ofNat`).
-/

namespace DexTriage.Json.Number

/-- Digits, of which there has to be one. -/
structure AreDigits (chars : List Char) : Prop where
  nonempty : chars ≠ []
  isDigit : ∀ c ∈ chars, c.isDigit = true

/-- How the digits before the point are written: no zero stands in front of others. -/
structure IsWholePart (chars : List Char) : Prop extends AreDigits chars where
  leading : chars.head? = some '0' → chars = ['0']

/-- How a fraction is written. -/
inductive SpellsFraction : List Char → Option (List Char) → Prop where
  | absent :
    SpellsFraction [] none
  | present {digits} :
    AreDigits digits →
    SpellsFraction ('.' :: digits) (some digits)

/-- How the sign of an exponent is written. -/
inductive SpellsSign : List Char → Bool → Prop where
  | absent :
    SpellsSign [] false
  | plus :
    SpellsSign ['+'] false
  | minus :
    SpellsSign ['-'] true

/-- How an exponent is written. -/
inductive SpellsExponent : List Char → Option (Bool × List Char) → Prop where
  | absent :
    SpellsExponent [] none
  | present {mark sign negative digits} :
    mark = 'e' ∨ mark = 'E' →
    SpellsSign sign negative →
    AreDigits digits →
    SpellsExponent (mark :: (sign ++ digits)) (some (negative, digits))

/-- The sign in front of a number. -/
def minus (negative : Bool) : List Char :=
  if negative then ['-'] else []

/-- How a number is written. -/
inductive Spells : List Char → Number → Prop where
  | parts (negative) {whole fraction behind exponent ending} :
    IsWholePart whole →
    SpellsFraction behind fraction →
    SpellsExponent ending exponent →
    Spells (minus negative ++ (whole ++ (behind ++ ending)))
      ⟨negative, whole, fraction, exponent⟩

/-! ## Reading the parts -/

/-- Digits that are taken off the front of a text are digits, if there are any. -/
lemma areDigits_takeWhile {text : List Char} (nonempty : text.takeWhile Char.isDigit ≠ []) :
    AreDigits (text.takeWhile Char.isDigit) :=
  ⟨nonempty, fun _ mem => List.mem_takeWhile_imp mem⟩

/-- All digits are taken off the front of something that begins with none. -/
lemma span_digits {digits rest : List Char} (areDigits : ∀ c ∈ digits, c.isDigit = true)
    (ended : ∀ c ∈ rest.head?, c.isDigit = false) :
    (digits ++ rest).takeWhile Char.isDigit = digits ∧
      (digits ++ rest).dropWhile Char.isDigit = rest := by
  rw [List.takeWhile_append_of_pos areDigits, List.dropWhile_append_of_pos areDigits]
  cases rest with
  | nil => exact ⟨List.append_nil _, rfl⟩
  | cons c rest =>
    have other : ¬ c.isDigit = true := Bool.eq_false_iff.1 (ended c rfl)
    rw [List.takeWhile_cons_of_neg other, List.dropWhile_cons_of_neg other]
    exact ⟨List.append_nil _, rfl⟩

/-- The digits before the point are accepted if they are written as they have to be. -/
lemma isWhole_iff {chars : List Char} : isWhole chars = true ↔ IsWholePart chars := by
  fun_cases isWhole chars with
  | case1 => exact ⟨nofun, fun whole => absurd rfl whole.nonempty⟩
  | case2 => exact ⟨fun _ => ⟨⟨nofun, List.forall_mem_singleton.2 rfl⟩, fun _ => rfl⟩, fun _ => rfl⟩
  | case3 c digits more =>
    rw [Bool.and_eq_true, decide_eq_true_iff, List.all_eq_true]
    constructor
    · rintro ⟨nonzero, areDigits⟩
      exact ⟨⟨nofun, areDigits⟩, fun zero => absurd (Option.some.inj zero) nonzero⟩
    · intro whole
      refine ⟨?_, whole.isDigit⟩
      rintro rfl
      exact more rfl (List.cons.inj (whole.leading rfl)).2

/-- A digit is none of the marks. -/
lemma ne_of_isDigit {c : Char} (isDigit : c.isDigit = true) (mark : Char)
    (other : mark.isDigit = false) : c ≠ mark := by
  rintro rfl
  rw [isDigit] at other
  cases other

/-- A sign and the digits behind it are told apart. -/
lemma readSign_append {sign negative digits} (spells : SpellsSign sign negative)
    (areDigits : AreDigits digits) : readSign (sign ++ digits) = (negative, digits) := by
  cases spells with
  | plus => rfl
  | minus => rfl
  | absent =>
    obtain ⟨c, others, rfl⟩ := List.exists_cons_of_ne_nil areDigits.nonempty
    have isDigit := areDigits.isDigit c (List.mem_cons_self ..)
    rw [List.nil_append, readSign.eq_def]
    split
    case h_1 same => exact absurd (List.cons.inj same).1 (ne_of_isDigit isDigit '+' rfl)
    case h_2 same => exact absurd (List.cons.inj same).1 (ne_of_isDigit isDigit '-' rfl)
    case h_3 => rfl

/-- What is read as a sign is written as one. -/
lemma exists_spellsSign {text : List Char} {negative digits}
    (read : readSign text = (negative, digits)) :
    ∃ sign, SpellsSign sign negative ∧ text = sign ++ digits := by
  rw [readSign.eq_def] at read
  split at read
  case h_1 =>
    cases read
    exact ⟨['+'], .plus, rfl⟩
  case h_2 =>
    cases read
    exact ⟨['-'], .minus, rfl⟩
  case h_3 =>
    cases read
    exact ⟨[], .absent, rfl⟩

/-- An exponent is read exactly from what it is written as. -/
lemma readExponent_eq_some_iff {text exponent} :
    readExponent text = some exponent ↔ SpellsExponent text exponent := by
  constructor
  · intro read
    cases text with
    | nil =>
      cases read
      exact .absent
    | cons mark rest =>
      rw [readExponent] at read
      split at read
      case isFalse => cases read
      case isTrue marked =>
        rcases signed : readSign rest with ⟨negative, digits⟩
        rw [signed] at read
        dsimp only at read
        split at read
        case isFalse => cases read
        case isTrue all =>
          rw [Bool.and_eq_true, Bool.not_eq_true', List.isEmpty_eq_false_iff, List.all_eq_true]
            at all
          cases read
          obtain ⟨sign, spells, rfl⟩ := exists_spellsSign signed
          exact .present (by simpa using marked) spells ⟨all.1, all.2⟩
  · intro spells
    cases spells with
    | absent => rfl
    | present marked sign areDigits =>
      have nonempty := List.isEmpty_eq_false_iff.2 areDigits.nonempty
      have all := List.all_eq_true.2 areDigits.isDigit
      rw [readExponent, if_pos (by simpa using marked), readSign_append sign areDigits]
      dsimp only
      rw [nonempty, all]
      rfl

/-- An exponent begins neither as a digit nor as a fraction does. -/
lemma SpellsExponent.head {text exponent} (spells : SpellsExponent text exponent) :
    ∀ c ∈ text.head?, c.isDigit = false ∧ c ≠ '.' := by
  cases spells with
  | absent => exact nofun
  | present marked _ _ =>
    intro c first
    cases first
    obtain rfl | rfl := marked
    · decide
    · decide

/-- A fraction in front of an exponent is read as it is written. -/
lemma readFraction_append {behind fraction ending} (spells : SpellsFraction behind fraction)
    (ended : ∀ c ∈ ending.head?, c.isDigit = false ∧ c ≠ '.') :
    readFraction (behind ++ ending) = some (fraction, ending) := by
  cases spells with
  | absent =>
    rw [List.nil_append, readFraction.eq_def]
    split
    · exact absurd rfl (ended _ rfl).2
    · rfl
  | present areDigits =>
    obtain ⟨taken, left⟩ := span_digits areDigits.isDigit fun c first => (ended c first).1
    rw [List.cons_append, readFraction, taken, left,
      List.isEmpty_eq_false_iff.2 areDigits.nonempty]
    rfl

/-- What is read as a fraction is written as one. -/
lemma exists_spellsFraction {text fraction ending}
    (read : readFraction text = some (fraction, ending)) :
    ∃ behind, SpellsFraction behind fraction ∧ text = behind ++ ending := by
  rw [readFraction.eq_def] at read
  split at read
  case h_1 rest =>
    dsimp only at read
    split at read
    case isTrue => cases read
    case isFalse nonempty =>
      cases read
      refine ⟨_, .present (areDigits_takeWhile (mt List.isEmpty_iff.2 nonempty)), ?_⟩
      rw [List.cons_append, List.takeWhile_append_dropWhile]
  case h_2 =>
    cases read
    exact ⟨[], .absent, rfl⟩

/-- The number with a sign that the rest of a text spells. -/
def unsigned? (negative : Bool) (text : List Char) : Option Number := do
  let (fraction, ending) ← readFraction (text.dropWhile Char.isDigit)
  let exponent ← readExponent ending
  if isWhole (text.takeWhile Char.isDigit) then
    return ⟨negative, text.takeWhile Char.isDigit, fraction, exponent⟩
  else none

/-- The parts of a number are read as they are written. -/
lemma unsigned?_append {whole fraction behind exponent ending} (isWhole : IsWholePart whole)
    (fractional : SpellsFraction behind fraction) (exponential : SpellsExponent ending exponent)
    (negative : Bool) :
    unsigned? negative (whole ++ (behind ++ ending)) =
      some ⟨negative, whole, fraction, exponent⟩ := by
  have ended : ∀ c ∈ (behind ++ ending).head?, c.isDigit = false := by
    intro c first
    cases fractional with
    | absent => exact (exponential.head c first).1
    | present => cases first; rfl
  obtain ⟨taken, left⟩ := span_digits isWhole.isDigit ended
  rw [unsigned?, taken, left, readFraction_append fractional exponential.head,
    Option.bind_eq_bind, Option.bind_some]
  dsimp only
  rw [readExponent_eq_some_iff.2 exponential, Option.bind_eq_bind, Option.bind_some,
    if_pos (isWhole_iff.2 isWhole)]
  rfl

/-- What is read as a number without its sign is written as one. -/
lemma spells_of_unsigned? {negative text number} (read : unsigned? negative text = some number) :
    Spells (minus negative ++ text) number := by
  rw [unsigned?, Option.bind_eq_bind, Option.bind_eq_some_iff] at read
  obtain ⟨⟨fraction, ending⟩, left, read⟩ := read
  rw [Option.bind_eq_bind, Option.bind_eq_some_iff] at read
  obtain ⟨exponent, exponential, read⟩ := read
  split at read
  case isFalse => cases read
  case isTrue whole =>
    cases read
    obtain ⟨behind, fractional, apart⟩ := exists_spellsFraction left
    have parts := Spells.parts negative (isWhole_iff.1 whole) fractional
      (readExponent_eq_some_iff.1 exponential)
    rwa [← apart, List.takeWhile_append_dropWhile] at parts

/-- A text that does not begin with the sign is read without one. -/
lemma ofChars?_of_head {text : List Char} (first : ∀ c ∈ text.head?, c ≠ '-') :
    ofChars? text = unsigned? false text := by
  cases text with
  | nil => rfl
  | cons c rest =>
    rw [ofChars?.eq_def]
    split
    rename_i negative unsigned apart
    split at apart
    case h_1 same => exact absurd (List.cons.inj same).1 (first c rfl)
    case h_2 =>
      cases apart
      rfl

/-- A text is read as a number exactly if it spells that number. -/
lemma ofChars?_eq_some_iff {text number} : ofChars? text = some number ↔ Spells text number := by
  constructor
  · intro read
    by_cases negative : text.head? = some '-'
    · obtain ⟨rest, rfl⟩ := List.head?_eq_some_iff.1 negative
      exact @spells_of_unsigned? true rest number read
    · rw [ofChars?_of_head fun c first same => negative (same ▸ first)] at read
      exact spells_of_unsigned? read
  · intro spells
    cases spells with
    | @parts negative whole _ _ _ _ isWhole fractional exponential =>
      have read := unsigned?_append isWhole fractional exponential negative
      cases negative with
      | true => exact read
      | false =>
        obtain ⟨c, digits, rfl⟩ := List.exists_cons_of_ne_nil isWhole.nonempty
        have isDigit := isWhole.isDigit c (List.mem_cons_self ..)
        refine (ofChars?_of_head fun c' first => ?_).trans read
        cases first
        exact ne_of_isDigit isDigit '-' (by decide)

/-! ## Natural numbers -/

/-- No number but zero is written with a zero in front. -/
lemma head_toDigits {n : Nat} (zero : (Nat.toDigits 10 n).head? = some '0') : n = 0 := by
  induction n using Text.toDigits_induction (by decide : 1 < 10) with
  | digit n less =>
    rw [Nat.toDigits_of_lt_base less] at zero
    have digits : ∀ d < 10, Nat.digitChar d = '0' → d = 0 := by decide
    exact digits n less (Option.some.inj zero)
  | more n le ih =>
    obtain ⟨c, digits, first⟩ :=
      List.exists_cons_of_ne_nil (Nat.toDigits_ne_nil (n := n / 10) (b := 10))
    rw [Nat.toDigits_of_base_le (by decide) le, first] at zero
    rw [first] at ih
    have small := ih zero
    omega

/-- The digits of a natural number are written as digits before the point have to be. -/
lemma isWholePart_toDigits (n : Nat) : IsWholePart (Nat.toDigits 10 n) where
  nonempty := Nat.toDigits_ne_nil
  isDigit _ mem := Nat.isDigit_of_mem_toDigits (by decide) (by decide) mem
  leading zero := by
    obtain rfl := head_toDigits zero
    rfl

/-- A natural number is written as a number has to be. -/
lemma spells_ofNat (n : Nat) : Spells (ofNat n).toChars (ofNat n) := by
  have spells := Spells.parts false (isWholePart_toDigits n) .absent .absent
  rw [toChars, ofNat]
  simpa [minus] using spells

/-- A natural number is read back from its digits. -/
lemma toNat?_ofNat (n : Nat) : (ofNat n).toNat? = some n := by
  have read : value (Nat.toDigits 10 n) = n :=
    Nat.ofDigitChars_eq_foldl.symm.trans Nat.ofDigitChars_ten_toDigits
  rw [ofNat, toNat?]
  exact congrArg some read

/-- More digits do not make a number smaller. -/
lemma le_ofDigitChars (start : Nat) (digits : List Char) :
    start ≤ Nat.ofDigitChars 10 digits start := by
  induction digits generalizing start with
  | nil => exact Nat.le_refl start
  | cons c digits ih =>
    rw [Nat.ofDigitChars_cons]
    have next := ih (10 * start + (c.toNat - '0'.toNat))
    omega

/-- Digits whose value fits into 64 bits are read as a whole. -/
lemma significand_of_lt {start : Nat} {digits : List Char}
    (fits : Nat.ofDigitChars 10 digits start < UInt64.size) :
    significand start digits = (Nat.ofDigitChars 10 digits start, 0) := by
  induction digits generalizing start with
  | nil => rfl
  | cons c digits ih =>
    rw [Nat.ofDigitChars_cons] at fits ⊢
    have next : 10 * start + (c.toNat - 48) < UInt64.size :=
      (le_ofDigitChars _ digits).trans_lt fits
    rw [significand, if_pos next]
    exact ih fits

/-- Rounding to 53 bits never doubles a number. -/
lemma round53_le (n : Nat) : round53 n ≤ 2 * n := by
  rw [round53]
  split
  case isTrue => omega
  case isFalse long =>
    have nonzero : n ≠ 0 := by
      rintro rfl
      exact long (by decide)
    have bit : 2 ^ (n.log2 - 52) ≤ n :=
      (Nat.pow_le_pow_right (by decide) (Nat.sub_le ..)).trans (Nat.log2_self_le nonzero)
    have upper : n / 2 ^ (n.log2 - 52) * 2 ^ (n.log2 - 52) ≤ n := Nat.div_mul_le_self ..
    dsimp only
    rw [Nat.shiftLeft_eq, Nat.shiftRight_eq_div_pow]
    split
    case isTrue =>
      rw [Nat.add_mul, Nat.one_mul]
      omega
    case isFalse => omega

/-- A natural number of 64 bits stays finite. -/
lemma isFinite_ofNat {n : Nat} (fits : n < UInt64.size) : (ofNat n).isFinite = true := by
  have digits : significand 0 (Nat.toDigits 10 n) = (n, 0) := by
    rw [significand_of_lt, Nat.ofDigitChars_ten_toDigits]
    rwa [Nat.ofDigitChars_ten_toDigits]
  have small : round53 n * round53 1 < overflow := by
    have one : round53 1 = 1 := by decide
    have bound : 2 * UInt64.size ≤ overflow := by decide +kernel
    have twice := round53_le n
    rw [one]
    omega
  rw [isFinite, ofNat]
  simp [digits, significand, scalesFinite, small]

end DexTriage.Json.Number
