import Mathlib
import DexTriage.Image.Mutf8
import DexTriage.Proofs.Except
import DexTriage.Proofs.Text.Utf16

/-!
# The grammar of modified UTF-8

`SpellsUnit` lists the ways to write a code unit in one, two or three bytes, and `Spells` puts them
one after the other. Neither asks for the shortest way.

`unitAt` reads a unit exactly where one is spelled (`unitAt_append`, `SpellsUnit.of_unitAt`), and
`decode` accepts exactly the bytes that start with a spelling of a text in as many units as it is
asked for: `decodeOnto_append` reads every such spelling, `Spells.of_decodeOnto` finds one in
whatever was read. Bytes behind the spelling change nothing, not even an error
(`decodeOnto_append_right`).
-/

namespace DexTriage.Mutf8

/-- A byte of the range in which continuation bytes lie. -/
def Continues (byte : UInt8) : Prop :=
  0x80 ≤ byte.toNat ∧ byte.toNat ≤ 0xBF

/-- Bytes that spell a code unit: one byte for itself, five and six bits of payload in two bytes, or
four, six and six bits in three. -/
inductive SpellsUnit : List UInt8 → Nat → Prop where
  | one {a : UInt8} :
    0x01 ≤ a.toNat → a.toNat ≤ 0x7F →
    SpellsUnit [a] a.toNat
  | two {a b : UInt8} :
    0xC0 ≤ a.toNat → a.toNat ≤ 0xDF →
    Continues b →
    SpellsUnit [a, b] ((a.toNat - 0xC0) * 0x40 + (b.toNat - 0x80))
  | three {a b c : UInt8} :
    0xE0 ≤ a.toNat → a.toNat ≤ 0xEF →
    Continues b →
    Continues c →
    SpellsUnit [a, b, c] ((a.toNat - 0xE0) * 0x1000 + (b.toNat - 0x80) * 0x40 + (c.toNat - 0x80))

/-- Bytes that spell code units, one after the other. -/
inductive Spells : List UInt8 → List Nat → Prop where
  | nil :
    Spells [] []
  | cons {spelled unit bytes units} :
    SpellsUnit spelled unit →
    Spells bytes units →
    Spells (spelled ++ bytes) (unit :: units)

/-- The bytes begin with a spelling of the text. -/
def Begins (bytes : List UInt8) (text : String) : Prop :=
  ∃ spelled rest, bytes = spelled ++ rest ∧ Spells spelled (text.toList.flatMap units16)

/-- A spelled unit fits into sixteen bits. -/
lemma SpellsUnit.lt {spelled unit} (su : SpellsUnit spelled unit) : unit < 0x10000 := by
  cases su with
  | one _ hi => omega
  | two _ hi b => obtain ⟨_, hb⟩ := b; omega
  | three _ hi b c => obtain ⟨_, hb⟩ := b; obtain ⟨_, hc⟩ := c; omega

/-- A unit takes at least one byte and at most three. -/
lemma SpellsUnit.length {spelled unit} (su : SpellsUnit spelled unit) :
    1 ≤ spelled.length ∧ spelled.length ≤ 3 := by
  cases su <;> simp

/-- A continuation byte gives its lower six bits. -/
lemma continuation_cons {b : UInt8} (cont : Continues b) (position rest) :
    continuation position (b :: rest) = .ok (b.toNat - 0x80) := by
  obtain ⟨lo, hi⟩ := cont
  have tag : b.toNat / 64 = 2 := by omega
  have payload : b.toNat % 64 = b.toNat - 0x80 := by omega
  simp [continuation, isContinuation, tag, payload]

/-- Where six bits are read, a continuation byte stands. -/
lemma Continues.of_continuation {position bytes payload}
    (read : continuation position bytes = .ok payload) :
    ∃ b rest, bytes = b :: rest ∧ Continues b ∧ payload = b.toNat - 0x80 := by
  cases bytes with
  | nil => simp [continuation] at read
  | cons b rest =>
    simp only [continuation, isContinuation, beq_iff_eq] at read
    split at read
    · rename_i tag
      cases read
      exact ⟨b, rest, rfl, ⟨by omega, by omega⟩, by omega⟩
    · cases read

/-- A spelled unit is read, whatever follows it. -/
lemma unitAt_append {spelled unit} (su : SpellsUnit spelled unit) (position rest) :
    unitAt position (spelled ++ rest) = .ok (unit, spelled.length) := by
  cases su with
  | @one a lo hi =>
    have nonzero : a.toNat ≠ 0 := by omega
    have ascii : a.toNat < 0x80 := by omega
    simp [unitAt, nonzero, ascii]
  | @two a b lo hi cont =>
    have payload : a.toNat % 32 = a.toNat - 0xC0 := by omega
    simp only [List.cons_append, List.nil_append, unitAt]
    rw [if_neg (by omega), if_neg (by omega), if_neg (by omega), if_pos (by omega),
      continuation_cons cont, payload]
    rfl
  | @three a b c lo hi cont₁ cont₂ =>
    have payload : a.toNat % 16 = a.toNat - 0xE0 := by omega
    simp only [List.cons_append, List.nil_append, unitAt, List.drop_succ_cons, List.drop_zero]
    rw [if_neg (by omega), if_neg (by omega), if_neg (by omega), if_neg (by omega),
      if_pos (by omega), continuation_cons cont₁, continuation_cons cont₂, payload]
    rfl

/-- Where a unit is read, one is spelled. -/
lemma SpellsUnit.of_unitAt {position bytes unit width}
    (read : unitAt position bytes = .ok (unit, width)) :
    ∃ spelled rest, bytes = spelled ++ rest ∧ SpellsUnit spelled unit ∧ width = spelled.length := by
  cases bytes with
  | nil => simp [unitAt] at read
  | cons a rest =>
    simp only [unitAt] at read
    split at read
    · cases read
    split at read
    · cases read
      exact ⟨[a], rest, rfl, .one (by omega) (by omega), rfl⟩
    split at read
    · cases read
    split at read
    · rw [bind_eq_ok_iff] at read
      obtain ⟨payload, low, read⟩ := read
      obtain ⟨b, rest, rfl, cont, eq⟩ := Continues.of_continuation low
      simp only [pure, Except.pure, Except.ok.injEq, Prod.mk.injEq] at read
      obtain ⟨rfl, rfl⟩ := read
      have lead : a.toNat % 32 = a.toNat - 0xC0 := by omega
      rw [lead, eq]
      exact ⟨[a, b], rest, rfl, .two (by omega) (by omega) cont, rfl⟩
    split at read
    · simp only [bind_eq_ok_iff] at read
      obtain ⟨payload₁, middle, payload₂, low, read⟩ := read
      obtain ⟨b, rest, rfl, cont₁, eq₁⟩ := Continues.of_continuation middle
      obtain ⟨c, rest, rfl, cont₂, eq₂⟩ := Continues.of_continuation low
      simp only [pure, Except.pure, Except.ok.injEq, Prod.mk.injEq] at read
      obtain ⟨rfl, rfl⟩ := read
      have lead : a.toNat % 16 = a.toNat - 0xE0 := by omega
      rw [lead, eq₁, eq₂]
      exact ⟨[a, b, c], rest, rfl, .three (by omega) (by omega) cont₁ cont₂, rfl⟩
    · cases read

/-- A unit that is read fits into sixteen bits. -/
lemma lt_of_unitAt {position bytes unit width} (read : unitAt position bytes = .ok (unit, width)) :
    unit < 0x10000 := by
  obtain ⟨_, _, -, su, -⟩ := SpellsUnit.of_unitAt read
  exact su.lt

/-- A unit that is read and is no surrogate stands for a character of its own. -/
lemma isScalarUnit_of_unitAt {position bytes unit width}
    (read : unitAt position bytes = .ok (unit, width)) (high : ¬ isHighSurrogate unit)
    (low : ¬ isLowSurrogate unit) : IsScalarUnit unit :=
  ⟨lt_of_unitAt read, Bool.eq_false_iff.2 high, Bool.eq_false_iff.2 low⟩

/-- Where two units are read, one is spelled behind the other. -/
lemma SpellsUnit.pair_of_unitAt {position bytes first width second secondWidth}
    (read : unitAt position bytes = .ok (first, width))
    (readSecond : unitAt (position + width) (bytes.drop width) = .ok (second, secondWidth)) :
    ∃ spelled spelledSecond rest, bytes = spelled ++ (spelledSecond ++ rest) ∧
      SpellsUnit spelled first ∧ SpellsUnit spelledSecond second ∧
      bytes.drop (width + secondWidth) = rest := by
  obtain ⟨spelled, behind, rfl, su, rfl⟩ := SpellsUnit.of_unitAt read
  rw [List.drop_left] at readSecond
  obtain ⟨spelledSecond, rest, rfl, suSecond, rfl⟩ := SpellsUnit.of_unitAt readSecond
  refine ⟨spelled, spelledSecond, rest, rfl, su, suSecond, ?_⟩
  rw [← List.drop_drop, List.drop_left, List.drop_left]

/-- A unit that is no surrogate is a character of its own. -/
lemma decodeOnto_scalar {position bytes unit width}
    (read : unitAt position bytes = .ok (unit, width)) (scalar : IsScalarUnit unit) (done count) :
    decodeOnto done position bytes (count + 1) =
      decodeOnto (done.push (Char.ofNat unit)) (position + width) (bytes.drop width) count := by
  obtain ⟨_, high, low⟩ := scalar
  cases count with
  | zero => simp [decodeOnto, read, high, low]
  | succ count => simp [decodeOnto, read, high, low]

/-- A high surrogate and a low one after it are a character. -/
lemma decodeOnto_pair {position bytes high width low lowWidth}
    (readHigh : unitAt position bytes = .ok (high, width))
    (readLow : unitAt (position + width) (bytes.drop width) = .ok (low, lowWidth))
    (isHigh : isHighSurrogate high) (isLow : isLowSurrogate low) (done count) :
    decodeOnto done position bytes (count + 2) =
      decodeOnto (done.push (ofSurrogates high low)) (position + width + lowWidth)
        (bytes.drop (width + lowWidth)) count := by
  simp [decodeOnto, readHigh, readLow, isHigh, isLow]

/-- A spelled unit that is no surrogate is read on behind. -/
lemma decodeOnto_append_scalar {spelled unit} (su : SpellsUnit spelled unit)
    (scalar : IsScalarUnit unit) (done position rest count) :
    decodeOnto done position (spelled ++ rest) (count + 1) =
      decodeOnto (done.push (Char.ofNat unit)) (position + spelled.length) rest count := by
  rw [decodeOnto_scalar (unitAt_append su position rest) scalar, List.drop_left]

/-- A spelled pair is read on behind. -/
lemma decodeOnto_append_pair {spelledHigh high spelledLow low} (suHigh : SpellsUnit spelledHigh high)
    (suLow : SpellsUnit spelledLow low) (isHigh : isHighSurrogate high)
    (isLow : isLowSurrogate low) (done position rest count) :
    decodeOnto done position (spelledHigh ++ (spelledLow ++ rest)) (count + 2) =
      decodeOnto (done.push (ofSurrogates high low))
        (position + spelledHigh.length + spelledLow.length) rest count := by
  have readHigh := unitAt_append suHigh position (spelledLow ++ rest)
  have readLow : unitAt (position + spelledHigh.length)
      ((spelledHigh ++ (spelledLow ++ rest)).drop spelledHigh.length) =
        .ok (low, spelledLow.length) := by
    rw [List.drop_left]
    exact unitAt_append suLow _ _
  rw [decodeOnto_pair readHigh readLow isHigh isLow, ← List.drop_drop, List.drop_left,
    List.drop_left]

/-- A character may be put behind the first part of a text or before the second. -/
lemma push_append_ofList (done : String) (c chars) :
    done.push c ++ String.ofList chars = done ++ String.ofList (c :: chars) := by
  apply String.toList_injective
  simp

/-- Every spelling of a text is read, whatever follows it. -/
lemma decodeOnto_append {chars : List Char} {spelled}
    (sp : Spells spelled (chars.flatMap units16)) (done position rest) :
    decodeOnto done position (spelled ++ rest) (chars.flatMap units16).length =
      .ok (done ++ String.ofList chars) := by
  induction chars generalizing spelled done position with
  | nil => simp [decodeOnto]
  | cons c chars ih =>
    rw [List.flatMap_cons] at sp ⊢
    obtain ⟨unit, scalar, char, eq⟩ | ⟨high, low, isHigh, isLow, char, eq⟩ := units16_cases c
    · rw [eq] at sp ⊢
      cases sp with
      | cons su sp =>
        rw [List.append_assoc, List.singleton_append, List.length_cons,
          decodeOnto_append_scalar su scalar, ih sp, char, push_append_ofList]
    · rw [eq] at sp ⊢
      cases sp with
      | @cons spelledHigh _ _ _ suHigh sp =>
        cases sp with
        | @cons spelledLow _ bytes _ suLow sp =>
          simp only [List.append_assoc, List.cons_append, List.nil_append, List.length_cons]
          rw [decodeOnto_append_pair suHigh suLow isHigh isLow, ih sp, char, push_append_ofList]

/-- Whatever is read, its code units are spelled there. -/
lemma Spells.of_decodeOnto {done position bytes count text}
    (read : decodeOnto done position bytes count = .ok text) :
    ∃ chars spelled rest, text = done ++ String.ofList chars ∧ bytes = spelled ++ rest ∧
      Spells spelled (chars.flatMap units16) ∧ count = (chars.flatMap units16).length := by
  -- a text ends at `case1`; `case5` and `case11` read a unit of its own and `case8` a pair
  fun_induction decodeOnto done position bytes count with
  | case1 done position bytes =>
    cases read
    exact ⟨[], [], bytes, by simp, rfl, .nil, rfl⟩
  | case2 => cases read
  | case3 => cases read
  | case4 => cases read
  | case5 done position bytes unit width readUnit high low =>
    cases read
    have scalar := isScalarUnit_of_unitAt readUnit high low
    obtain ⟨spelled, rest, rfl, su, rfl⟩ := SpellsUnit.of_unitAt readUnit
    refine ⟨[Char.ofNat unit], spelled, rest, ?_, rfl, ?_, ?_⟩
    · rw [← push_append_ofList]
      simp
    · simpa [units16_ofNat scalar] using Spells.cons su .nil
    · simp [units16_ofNat scalar]
  | case6 => cases read
  | case7 => cases read
  | case8 done position bytes count high width readHigh isHigh low lowWidth readLow isLow ih =>
    obtain ⟨spelledHigh, spelledLow, rest, rfl, suHigh, suLow, behind⟩ :=
      SpellsUnit.pair_of_unitAt readHigh readLow
    rw [behind] at ih read
    obtain ⟨chars, spelled, rest, rfl, rfl, sp, rfl⟩ := ih read
    refine ⟨ofSurrogates high low :: chars, spelledHigh ++ (spelledLow ++ spelled), rest, ?_, ?_,
      ?_, ?_⟩
    · rw [push_append_ofList]
    · simp
    · simpa [units16_ofSurrogates isHigh isLow] using Spells.cons suHigh (.cons suLow sp)
    · simp [units16_ofSurrogates isHigh isLow]
  | case9 => cases read
  | case10 => cases read
  | case11 done position bytes count unit width readUnit high low ih =>
    have scalar := isScalarUnit_of_unitAt readUnit high low
    obtain ⟨spelledUnit, rest, rfl, su, rfl⟩ := SpellsUnit.of_unitAt readUnit
    rw [List.drop_left] at ih read
    obtain ⟨chars, spelled, rest, rfl, rfl, sp, eq⟩ := ih read
    refine ⟨Char.ofNat unit :: chars, spelledUnit ++ spelled, rest, ?_, ?_, ?_, ?_⟩
    · rw [push_append_ofList]
    · simp
    · simpa [units16_ofNat scalar] using Spells.cons su sp
    · simp [units16_ofNat scalar, eq]

/-- Bytes behind as many spelled units as are asked for have no influence. -/
lemma decodeOnto_append_right {spelled units} (sp : Spells spelled units) (done position rest) :
    decodeOnto done position (spelled ++ rest) units.length =
      decodeOnto done position spelled units.length := by
  -- on two units at a time, since the decoder looks from a high surrogate to the next unit
  induction units using List.twoStepInduction generalizing spelled done position with
  | nil => simp [decodeOnto]
  | singleton unit =>
    cases sp with
    | @cons spelled _ bytes _ su sp =>
      simp only [List.append_assoc, List.length_singleton, decodeOnto, unitAt_append su]
  | cons_cons first second units ih₂ ih₁ =>
    cases sp with
    | @cons spelledFirst _ _ _ suFirst sp =>
      have later := ih₁ second sp
      cases sp with
      | @cons spelledSecond _ bytes _ suSecond sp =>
        simp only [List.append_assoc, List.length_cons, decodeOnto, unitAt_append suFirst,
          List.drop_left, unitAt_append suSecond, ← List.drop_drop]
        simp only [List.append_assoc, List.length_cons] at later
        rw [ih₂ sp, later]

/-- A text is read exactly where the bytes begin with a spelling of it. -/
lemma decode_eq_ok_iff {bytes count text} :
    decode bytes count = .ok text ↔ count = length16 text ∧ Begins bytes text := by
  constructor
  · intro read
    obtain ⟨chars, spelled, rest, rfl, rfl, sp, rfl⟩ := Spells.of_decodeOnto read
    simp only [String.empty_append]
    exact ⟨by simp [length16], spelled, rest, rfl, by simpa using sp⟩
  · rintro ⟨rfl, spelled, rest, rfl, sp⟩
    have read := decodeOnto_append sp "" 0 rest
    simpa [decode, length16] using read

/-- Spelled units take at least one byte each. -/
lemma Spells.length_le {spelled units} (sp : Spells spelled units) :
    units.length ≤ spelled.length := by
  induction sp with
  | nil => simp
  | cons su _ ih =>
    have := su.length
    simp only [List.length_cons, List.length_append]
    omega

/-- A text that bytes begin with has at most as many code units as there are bytes. -/
lemma Begins.length16_le {bytes text} (begins : Begins bytes text) :
    length16 text ≤ bytes.length := by
  obtain ⟨spelled, rest, rfl, sp⟩ := begins
  have := sp.length_le
  simp only [length16, List.length_append]
  omega

/-- `decode` accepts exactly the grammar: the number of units is that of the text, and the bytes
begin with a spelling of the text; some text is accepted exactly where as many units as are asked
for are spelled with their surrogates in pairs. What follows the spelled units has no influence. In
a buffer that fits into memory the room for the text can always be made. -/
theorem decode_accepts_exactly_spellings (bytes : List UInt8) (count : Nat) (text : String) :
    (decode bytes count = .ok text ↔ count = length16 text ∧ Begins bytes text) ∧
    ((∃ accepted, decode bytes count = .ok accepted) ↔
      ∃ spelled rest units, bytes = spelled ++ rest ∧ Spells spelled units ∧
        units.length = count ∧ Paired units) ∧
    (∀ spelled rest rest' units, Spells spelled units → units.length = count →
      decode (spelled ++ rest) count = decode (spelled ++ rest') count) ∧
    (bytes.length ≤ capacity →
      (decode? bytes count = some (.ok text) ↔ count = length16 text ∧ Begins bytes text)) := by
  refine ⟨decode_eq_ok_iff, ⟨?_, ?_⟩, ?_, ?_⟩
  · rintro ⟨accepted, read⟩
    obtain ⟨rfl, spelled, rest, rfl, sp⟩ := decode_eq_ok_iff.1 read
    exact ⟨spelled, rest, _, rfl, sp, rfl, paired_iff.2 ⟨_, rfl⟩⟩
  · rintro ⟨spelled, rest, units, rfl, sp, rfl, paired⟩
    obtain ⟨chars, rfl⟩ := paired_iff.1 paired
    refine ⟨String.ofList chars, decode_eq_ok_iff.2 ⟨by simp [length16], spelled, rest, rfl, ?_⟩⟩
    simpa using sp
  · rintro spelled rest rest' units sp rfl
    rw [decode, decode, decodeOnto_append_right sp, decodeOnto_append_right sp]
  · intro room
    rw [decode?]
    split
    · rw [Option.some.injEq, decode_eq_ok_iff]
    · rename_i large
      refine ⟨nofun, ?_⟩
      rintro ⟨rfl, begins⟩
      have := begins.length16_le
      omega

/-- A unit in more bytes than needed, a surrogate pair, and a byte that belongs to no spelling. -/
theorem decode_overlong_unit_and_pair :
    decode [0xC1, 0x81, 0xED, 0xA0, 0xBD, 0xED, 0xB8, 0x80, 0xFF] 3 = .ok "A😀" ∧
    decode? [0xC1, 0x81, 0xED, 0xA0, 0xBD, 0xED, 0xB8, 0x80, 0xFF] 3 = some (.ok "A😀") ∧
    decode ([0xC1, 0x81, 0xED, 0xA0, 0xBD, 0xED, 0xB8, 0x80] ++ [0xFF]) 3 =
      decode ([0xC1, 0x81, 0xED, 0xA0, 0xBD, 0xED, 0xB8, 0x80] ++ []) 3 := by
  have one : SpellsUnit [0xC1, 0x81] 0x41 := .two (by decide) (by decide) ⟨by decide, by decide⟩
  have high : SpellsUnit [0xED, 0xA0, 0xBD] 0xD83D :=
    .three (by decide) (by decide) ⟨by decide, by decide⟩ ⟨by decide, by decide⟩
  have low : SpellsUnit [0xED, 0xB8, 0x80] 0xDE00 :=
    .three (by decide) (by decide) ⟨by decide, by decide⟩ ⟨by decide, by decide⟩
  have sp : Spells [0xC1, 0x81, 0xED, 0xA0, 0xBD, 0xED, 0xB8, 0x80] [0x41, 0xD83D, 0xDE00] :=
    .cons one (.cons high (.cons low .nil))
  have begins : Begins [0xC1, 0x81, 0xED, 0xA0, 0xBD, 0xED, 0xB8, 0x80, 0xFF] "A😀" :=
    ⟨_, [0xFF], rfl, sp⟩
  obtain ⟨accepts, -, independent, room⟩ := decode_accepts_exactly_spellings
    [0xC1, 0x81, 0xED, 0xA0, 0xBD, 0xED, 0xB8, 0x80, 0xFF] 3 "A😀"
  exact ⟨accepts.2 ⟨by decide, begins⟩, (room (by decide)).2 ⟨by decide, begins⟩,
    independent _ _ _ _ sp rfl⟩

end DexTriage.Mutf8
