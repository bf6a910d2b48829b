import Mathlib
import DexTriage.Proofs.Mutf8.Extension
import DexTriage.Proofs.Mutf8.Words

/-!
# How long a text is refused

What is refused for a number of code units is refused in the same way for every greater one
(`decodeOnto_more`), unless the number cuts a surrogate pair (`CutsPair`): more code units then get
beyond the first half of the pair, and whatever comes of them is something else
(`CutsPair.decodeOnto_ne`). The greater number has to leave room for the text, or else there is no
result at all (`decode?_without_room`).
-/

namespace DexTriage.Mutf8

/-- So many code units end with the first half of a surrogate pair. -/
inductive CutsPair : List UInt8 → Nat → Prop where
  | last {spelled high rest} :
    SpellsUnit spelled high →
    isHighSurrogate high →
    CutsPair (spelled ++ rest) 1
  | unit {spelled unit bytes count} :
    SpellsUnit spelled unit →
    IsScalarUnit unit →
    CutsPair bytes count →
    CutsPair (spelled ++ bytes) (count + 1)
  | pair {spelledHigh high spelledLow low bytes count} :
    SpellsUnit spelledHigh high →
    isHighSurrogate high →
    SpellsUnit spelledLow low →
    isLowSurrogate low →
    CutsPair bytes count →
    CutsPair (spelledHigh ++ (spelledLow ++ bytes)) (count + 2)

/-- Code units that cut a pair take at least one byte each. -/
lemma CutsPair.le_length {bytes count} (cuts : CutsPair bytes count) : count ≤ bytes.length := by
  induction cuts with
  | last su _ =>
    have := su.length
    rw [List.length_append]
    omega
  | unit su _ _ ih =>
    have := su.length
    rw [List.length_append]
    omega
  | pair suHigh _ suLow _ _ ih =>
    have := suHigh.length
    have := suLow.length
    rw [List.length_append, List.length_append]
    omega

section Step

variable {position : Nat} {bytes : List UInt8} {unit width low lowWidth : Nat} {e : ImageError}

/-- A text is refused with its next unit, however many units it has. -/
lemma decodeOnto_of_refused (refused : unitAt position bytes = .error e) (done count) :
    decodeOnto done position bytes (count + 1) = .error e := by
  cases count with
  | zero => simp only [decodeOnto, refused]
  | succ count => simp only [decodeOnto, refused]

/-- A text is refused at a low surrogate of its own, however many units it has. -/
lemma decodeOnto_of_low (read : unitAt position bytes = .ok (unit, width))
    (isLow : isLowSurrogate unit) (done count) :
    decodeOnto done position bytes (count + 1) =
      .error (.invalidEncoding position .unpairedLow) := by
  have notHigh : isHighSurrogate unit = false := by
    simp only [isHighSurrogate, isLowSurrogate, Bool.and_eq_true, Bool.and_eq_false_iff,
      decide_eq_true_eq, decide_eq_false_iff_not] at isLow ⊢
    omega
  cases count with
  | zero => simp [decodeOnto, read, notHigh, isLow]
  | succ count => simp [decodeOnto, read, notHigh, isLow]

/-- A text is refused with the second unit of a pair. -/
lemma decodeOnto_of_refused_low (read : unitAt position bytes = .ok (unit, width))
    (isHigh : isHighSurrogate unit)
    (refused : unitAt (position + width) (bytes.drop width) = .error e) (done count) :
    decodeOnto done position bytes (count + 2) = .error e := by
  simp only [decodeOnto, read, isHigh, refused, if_true]

/-- A text is refused at a unit behind a high surrogate that makes no pair with it. -/
lemma decodeOnto_of_unpaired (read : unitAt position bytes = .ok (unit, width))
    (isHigh : isHighSurrogate unit)
    (readLow : unitAt (position + width) (bytes.drop width) = .ok (low, lowWidth))
    (notLow : isLowSurrogate low = false) (done count) :
    decodeOnto done position bytes (count + 2) =
      .error (.invalidEncoding (position + width) .unpairedHigh) := by
  simp [decodeOnto, read, isHigh, readLow, notLow]

/-- More code units than a high surrogate are refused, if at all, behind it. -/
lemma lt_place_of_high {done place fault count} (read : unitAt position bytes = .ok (unit, width))
    (isHigh : isHighSurrogate unit)
    (refused : decodeOnto done position bytes (count + 2) = .error (.invalidEncoding place fault)) :
    position < place := by
  obtain ⟨spelled, rest, rfl, su, rfl⟩ := SpellsUnit.of_unitAt read
  have some := su.length.1
  have behind {reach : Nat} {bytes'} (placed : IsPlaced (position + spelled.length) bytes' reach
      (.invalidEncoding place fault)) : position < place := by
    obtain ⟨_, _, same, ge, -⟩ := placed
    cases same
    omega
  cases readLow : unitAt (position + spelled.length) ((spelled ++ rest).drop spelled.length) with
  | error e =>
    rw [decodeOnto_of_refused_low read isHigh readLow] at refused
    cases refused
    exact behind (isPlaced_of_unitAt readLow)
  | ok second =>
    obtain ⟨low, lowWidth⟩ := second
    cases isLow : isLowSurrogate low with
    | false =>
      rw [decodeOnto_of_unpaired read isHigh readLow isLow] at refused
      cases refused
      omega
    | true =>
      rw [decodeOnto_pair read readLow isHigh isLow] at refused
      obtain ⟨_, _, same, ge, -⟩ := isPlaced_of_decodeOnto refused
      cases same
      omega

/-- A high surrogate that is read last is cut from its pair. -/
lemma cutsPair_of_high (read : unitAt position bytes = .ok (unit, width))
    (isHigh : isHighSurrogate unit) : CutsPair bytes 1 := by
  obtain ⟨spelled, rest, rfl, su, -⟩ := SpellsUnit.of_unitAt read
  exact .last su isHigh

/-- A pair that is cut behind a unit is cut. -/
lemma CutsPair.of_unit {count} (read : unitAt position bytes = .ok (unit, width))
    (scalar : IsScalarUnit unit) (cuts : CutsPair (bytes.drop width) count) :
    CutsPair bytes (count + 1) := by
  obtain ⟨spelled, rest, rfl, su, rfl⟩ := SpellsUnit.of_unitAt read
  rw [List.drop_left] at cuts
  exact .unit su scalar cuts

/-- A pair that is cut behind another pair is cut. -/
lemma CutsPair.of_pair {count} (read : unitAt position bytes = .ok (unit, width))
    (isHigh : isHighSurrogate unit)
    (readLow : unitAt (position + width) (bytes.drop width) = .ok (low, lowWidth))
    (isLow : isLowSurrogate low) (cuts : CutsPair (bytes.drop (width + lowWidth)) count) :
    CutsPair bytes (count + 2) := by
  obtain ⟨spelledHigh, spelledLow, rest, rfl, suHigh, suLow, behind⟩ :=
    SpellsUnit.pair_of_unitAt read readLow
  rw [behind] at cuts
  exact .pair suHigh isHigh suLow isLow cuts

end Step

/-- What is refused for a number of code units that cuts no pair is refused for every greater
one. -/
lemma decodeOnto_more {done position bytes count e}
    (refused : decodeOnto done position bytes count = .error e) (whole : ¬ CutsPair bytes count)
    (more) : decodeOnto done position bytes (count + more) = .error e := by
  fun_induction decodeOnto done position bytes count with
  | case1 => cases refused
  | case2 done position bytes e' refusedUnit =>
    rw [Nat.add_comm, decodeOnto_of_refused refusedUnit, ← refused]
  | case3 done position bytes unit width read high => exact absurd (cutsPair_of_high read high) whole
  | case4 done position bytes unit width read high low =>
    rw [Nat.add_comm, decodeOnto_of_low read low, ← refused]
  | case5 => cases refused
  | case6 done position bytes count e' refusedUnit =>
    rw [Nat.succ_add, decodeOnto_of_refused refusedUnit, ← refused]
  | case7 done position bytes count unit width read high e' refusedUnit =>
    rw [Nat.succ_add, Nat.succ_add, decodeOnto_of_refused_low read high refusedUnit, ← refused]
  | case8 done position bytes count unit width read high low lowWidth readLow isLow ih =>
    rw [Nat.succ_add, Nat.succ_add, decodeOnto_pair read readLow high isLow]
    exact ih refused fun cuts => whole (cuts.of_pair read high readLow isLow)
  | case9 done position bytes count unit width read high low lowWidth readLow isLow =>
    rw [Nat.succ_add, Nat.succ_add,
      decodeOnto_of_unpaired read high readLow (by simpa using isLow), ← refused]
  | case10 done position bytes count unit width read high low =>
    rw [Nat.succ_add, decodeOnto_of_low read low, ← refused]
  | case11 done position bytes count unit width read high low ih =>
    have scalar := isScalarUnit_of_unitAt read high low
    rw [Nat.succ_add, decodeOnto_scalar read scalar]
    exact ih refused fun cuts => whole (cuts.of_unit read scalar)

/-- Where a pair is cut, more code units give another result. -/
lemma CutsPair.decodeOnto_ne {bytes count} (cuts : CutsPair bytes count) (done position more) :
    decodeOnto done position bytes (count + (more + 1)) ≠ decodeOnto done position bytes count := by
  induction cuts generalizing done position with
  | @last spelled high rest su isHigh =>
    have read := unitAt_append su position rest
    have cut : decodeOnto done position (spelled ++ rest) 1 =
        .error (.invalidEncoding position .unpairedHigh) := by
      simp only [decodeOnto, read, isHigh, if_true]
    rw [cut, Nat.add_left_comm]
    intro refused
    exact Nat.lt_irrefl _ (lt_place_of_high read isHigh refused)
  | @unit spelled unit bytes count su scalar _ ih =>
    rw [Nat.add_right_comm, decodeOnto_append_scalar su scalar, decodeOnto_append_scalar su scalar]
    exact ih _ _
  | @pair spelledHigh high spelledLow low bytes count suHigh isHigh suLow isLow _ ih =>
    rw [Nat.add_right_comm, decodeOnto_append_pair suHigh suLow isHigh isLow,
      decodeOnto_append_pair suHigh suLow isHigh isLow]
    exact ih _ _

/-- There is a result where there is room for it. -/
lemma decode?_eq_some_iff {bytes count result} :
    decode? bytes count = some result ↔ count ≤ capacity ∧ decode bytes count = result := by
  rw [decode?]
  split
  · rename_i room
    rw [Option.some.injEq, and_iff_right room]
  · rename_i noRoom
    exact iff_of_false (Option.some_ne_none _).symm fun both => noRoom both.1

/-- What is refused is refused for every greater number of code units exactly if no pair is cut. -/
lemma decode_greater_iff {bytes count greater e} (refused : decode bytes count = .error e)
    (lt : count < greater) : decode bytes greater = .error e ↔ ¬ CutsPair bytes count := by
  obtain ⟨more, rfl⟩ := Nat.exists_eq_add_of_lt lt
  constructor
  · intro same cuts
    rw [← refused] at same
    exact cuts.decodeOnto_ne "" 0 more same
  · intro whole
    exact decodeOnto_more refused whole (more + 1)

/-- What comes of bytes, for every number of code units. Decoded in words they give the same, since
no number is ever found to be that of no character. A text that is read is read in front of more
bytes too. Otherwise the bytes are refused for their encoding, at a place that is one of them or,
exactly if they end too early, the end behind them; unless they do, they are refused in the same way
in front of more bytes; and unless their number cuts a pair, they are refused in the same way for
any greater number of code units for which there is room. There is no result exactly if there is no
room. -/
theorem decode?_lasts (bytes : List UInt8) (count : Nat) :
    decodeWords? bytes count = (decode? bytes count).map (Except.mapError .image) ∧
    (∀ text, decode? bytes count = some (.ok text) →
      ∀ more, decode? (bytes ++ more) count = some (.ok text)) ∧
    (∀ e, decode? bytes count = some (.error e) →
      ∃ place fault, e = .invalidEncoding place fault ∧ place ≤ bytes.length ∧
        (place = bytes.length ↔ fault = .truncated) ∧
        (fault ≠ .truncated → ∀ more, decode? (bytes ++ more) count = some (.error e)) ∧
        (∀ greater, count < greater → greater ≤ capacity →
          (decode? bytes greater = some (.error e) ↔ ¬ CutsPair bytes count))) ∧
    (decode? bytes count = none ↔ capacity < count) := by
  refine ⟨decodeWords?_eq bytes count, ?_, ?_, ?_⟩
  · intro text read more
    obtain ⟨room, read⟩ := decode?_eq_some_iff.1 read
    have longer := decode_append more (read ▸ lasts_ok text)
    exact decode?_eq_some_iff.2 ⟨room, longer.trans read⟩
  · intro e refused
    obtain ⟨room, refused⟩ := decode?_eq_some_iff.1 refused
    obtain ⟨place, fault, rfl, -, -, le, atEnd⟩ := isPlaced_of_decodeOnto refused
    rw [Nat.zero_add] at le atEnd
    refine ⟨place, fault, rfl, le, atEnd, ?_, ?_⟩
    · intro untruncated more
      have lasting : (ImageError.invalidEncoding place fault).IsLasting := untruncated
      have longer := decode_append more (refused ▸ lasts_error.2 lasting)
      exact decode?_eq_some_iff.2 ⟨room, longer.trans refused⟩
    · intro greater lt room'
      rw [decode?_eq_some_iff, and_iff_right room', decode_greater_iff refused lt]
  · rw [decode?, ite_eq_right_iff]
    simp

/-- A letter is read, and behind it a unit is refused that goes on with a letter. -/
theorem decode?_lasts_of_stray_letter :
    decode? [0x61, 0xC3, 0x41] 1 = some (.ok "a") ∧
    decode? [0x61, 0xC3, 0x41, 0x00] 1 = some (.ok "a") ∧
    decode? [0x61, 0xC3, 0x41] 2 = some (.error (.invalidEncoding 2 .continuationByte)) ∧
    decode? [0x61, 0xC3, 0x41, 0x00] 2 = some (.error (.invalidEncoding 2 .continuationByte)) ∧
    ¬ CutsPair [0x61, 0xC3, 0x41] 2 ∧
    decode? [0x61, 0xC3, 0x41] capacity =
      some (.error (.invalidEncoding 2 .continuationByte)) := by
  have read : decode? [0x61, 0xC3, 0x41] 1 = some (.ok "a") := by decide
  have refused : decode? [0x61, 0xC3, 0x41] 2 =
      some (.error (.invalidEncoding 2 .continuationByte)) := by decide
  obtain ⟨-, reads, -, -⟩ := decode?_lasts [0x61, 0xC3, 0x41] 1
  obtain ⟨-, -, refuses, -⟩ := decode?_lasts [0x61, 0xC3, 0x41] 2
  obtain ⟨place, fault, same, -, -, longer, greater⟩ := refuses _ refused
  cases same
  have third : decode? [0x61, 0xC3, 0x41] 3 =
      some (.error (.invalidEncoding 2 .continuationByte)) := by decide
  have whole := (greater 3 (by decide) (by decide)).1 third
  exact ⟨read, reads "a" read [0x00], refused, longer (by decide) [0x00], whole,
    (greater capacity (by decide) (Nat.le_refl _)).2 whole⟩

/-- An end that comes too early is not found where there is no room for so many code units. -/
theorem decode?_without_room :
    decode? [] 1 = some (.error (.invalidEncoding 0 .truncated)) ∧ ¬ CutsPair [] 1 ∧
    1 < 0x8000000000000000 ∧ decode? [] 0x8000000000000000 = none :=
  ⟨by decide, fun cuts => absurd cuts.le_length (by decide), by decide, by decide⟩

end DexTriage.Mutf8
