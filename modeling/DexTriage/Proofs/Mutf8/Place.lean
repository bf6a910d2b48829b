import Mathlib
import DexTriage.Proofs.Mutf8.Spelling

/-!
# Where a text is refused

A text is refused for its encoding and for nothing else, and the error names a place: one of the
bytes, or the end behind the last of them, the latter exactly if the bytes end too early. The place
is within the first three bytes for every code unit (`isPlaced_of_decodeOnto`), so that the bytes can
only end too early if there are fewer (`IsPlaced.length_lt`).
-/

namespace DexTriage.Mutf8

/-- The error is a fault of the encoding of bytes that stand at `position`. Its place is one of the
first `reach` of them, or the end behind them exactly if they end too early. -/
def IsPlaced (position : Nat) (bytes : List UInt8) (reach : Nat) (e : ImageError) : Prop :=
  ∃ place fault, e = .invalidEncoding place fault ∧ position ≤ place ∧ place < position + reach ∧
    place ≤ position + bytes.length ∧ (place = position + bytes.length ↔ fault = .truncated)

/-- A fault of the first byte has its place. -/
lemma isPlaced_first {reach fault} (some : 0 < reach) (within : fault ≠ .truncated)
    (position byte bytes) :
    IsPlaced position (byte :: bytes) reach (.invalidEncoding position fault) :=
  ⟨_, _, rfl, Nat.le_refl _, by omega, Nat.le_add_right _ _, iff_of_false (by simp) within⟩

/-- Bytes that are missing are missed at the end. -/
lemma isPlaced_nil {reach} (some : 0 < reach) (position) :
    IsPlaced position [] reach (.invalidEncoding position .truncated) :=
  ⟨_, _, rfl, Nat.le_refl _, by omega, Nat.le_refl _, iff_of_true rfl rfl⟩

/-- A fault among later bytes is one among all of them. -/
lemma IsPlaced.of_drop {position bytes count reach reach' e} (inside : count ≤ bytes.length)
    (wide : count + reach ≤ reach')
    (placed : IsPlaced (position + count) (bytes.drop count) reach e) :
    IsPlaced position bytes reach' e := by
  have whole : position + count + (bytes.drop count).length = position + bytes.length := by
    rw [List.length_drop]
    omega
  obtain ⟨place, fault, rfl, ge, lt, le, atEnd⟩ := placed
  rw [whole] at le atEnd
  exact ⟨place, fault, rfl, by omega, by omega, le, atEnd⟩

/-- Bytes that end too early are fewer than can be reached. -/
lemma IsPlaced.length_lt {position bytes reach place}
    (placed : IsPlaced position bytes reach (.invalidEncoding place .truncated)) :
    bytes.length < reach := by
  obtain ⟨_, _, same, -, lt, -, atEnd⟩ := placed
  cases same
  have := atEnd.2 rfl
  omega

/-- A unit that is read takes no more bytes than there are. -/
lemma width_le_of_unitAt {position bytes unit width}
    (read : unitAt position bytes = .ok (unit, width)) : width ≤ bytes.length ∧ width ≤ 3 := by
  obtain ⟨spelled, rest, rfl, su, rfl⟩ := SpellsUnit.of_unitAt read
  have := su.length
  rw [List.length_append]
  omega

/-- Six bits are refused at the byte that they are looked for in. -/
lemma isPlaced_of_continuation {position bytes e}
    (refused : continuation position bytes = .error e) : IsPlaced position bytes 1 e := by
  cases bytes with
  | nil =>
    cases refused
    exact isPlaced_nil (by decide) position
  | cons byte bytes =>
    rw [continuation] at refused
    split at refused
    · cases refused
    · cases refused
      exact isPlaced_first (by decide) (by decide) position byte bytes

/-- A code unit is refused at one of its bytes. -/
lemma isPlaced_of_unitAt {position bytes e} (refused : unitAt position bytes = .error e) :
    IsPlaced position bytes 3 e := by
  cases bytes with
  | nil =>
    cases refused
    exact isPlaced_nil (by decide) position
  | cons lead rest =>
    have second (refused : continuation (position + 1) rest = .error e) :
        IsPlaced position (lead :: rest) 3 e :=
      (isPlaced_of_continuation refused).of_drop (Nat.le_add_left 1 _) (by decide)
    simp only [unitAt] at refused
    split at refused
    · cases refused
      exact isPlaced_first (by decide) (by decide) position lead rest
    split at refused
    · cases refused
    split at refused
    · cases refused
      exact isPlaced_first (by decide) (by decide) position lead rest
    split at refused
    · obtain refused | ⟨_, _, refused⟩ := bind_eq_error_iff.1 refused
      · exact second refused
      · cases refused
    split at refused
    · obtain refused | ⟨_, readMiddle, refused⟩ := bind_eq_error_iff.1 refused
      · exact second refused
      obtain refused | ⟨_, _, refused⟩ := bind_eq_error_iff.1 refused
      · obtain ⟨_, _, rfl, -⟩ := Continues.of_continuation readMiddle
        exact (isPlaced_of_continuation refused).of_drop (Nat.le_add_left 2 _) (by decide)
      · cases refused
    · cases refused
      exact isPlaced_first (by decide) (by decide) position lead rest

/-- A unit that is read, but must not stand where it does, is refused at its first byte. -/
lemma isPlaced_of_read {position bytes read reach fault} (readUnit : unitAt position bytes = .ok read)
    (some : 0 < reach) (within : fault ≠ .truncated) :
    IsPlaced position bytes reach (.invalidEncoding position fault) := by
  cases bytes with
  | nil => cases readUnit
  | cons lead rest => exact isPlaced_first some within position lead rest

/-- A text is refused at one of its bytes. -/
lemma isPlaced_of_decodeOnto {done position bytes count e}
    (refused : decodeOnto done position bytes count = .error e) :
    IsPlaced position bytes (3 * count) e := by
  -- the place is in the next unit, in the second one of a pair, or behind them
  fun_induction decodeOnto done position bytes count with
  | case1 => cases refused
  | case2 done position bytes e' refusedUnit =>
    cases refused
    exact isPlaced_of_unitAt refusedUnit
  | case3 done position bytes unit width read high =>
    cases refused
    exact isPlaced_of_read read (by omega) (by decide)
  | case4 done position bytes unit width read high low =>
    cases refused
    exact isPlaced_of_read read (by omega) (by decide)
  | case5 => cases refused
  | case6 done position bytes count e' refusedUnit =>
    cases refused
    exact (isPlaced_of_unitAt refusedUnit).of_drop (Nat.zero_le _) (by omega)
  | case7 done position bytes count unit width read high e' refusedUnit =>
    cases refused
    have narrow := width_le_of_unitAt read
    exact (isPlaced_of_unitAt refusedUnit).of_drop narrow.1 (by omega)
  | case8 done position bytes count unit width read high low lowWidth readLow isLow ih =>
    have narrow := width_le_of_unitAt read
    have narrow' := width_le_of_unitAt readLow
    rw [List.length_drop] at narrow'
    rw [Nat.add_assoc] at ih refused
    exact (ih refused).of_drop (by omega) (by omega)
  | case9 done position bytes count unit width read high low lowWidth readLow isLow =>
    cases refused
    have narrow := width_le_of_unitAt read
    exact (isPlaced_of_read readLow Nat.one_pos (by decide)).of_drop narrow.1 (by omega)
  | case10 done position bytes count unit width read high low =>
    cases refused
    exact isPlaced_of_read read (by omega) (by decide)
  | case11 done position bytes count unit width read high low ih =>
    have narrow := width_le_of_unitAt read
    exact (ih refused).of_drop narrow.1 (by omega)

end DexTriage.Mutf8
