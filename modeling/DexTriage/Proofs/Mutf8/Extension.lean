import Mathlib
import DexTriage.Proofs.Lasting
import DexTriage.Proofs.Mutf8.Place

/-!
# How many bytes a text depends on

A text that is read, or refused for another reason than that the bytes end, comes out the same
whatever is behind the bytes (`decode_append`). The bytes can only end too early if there are fewer
than three for every code unit; so three bytes for every code unit decide what comes of the text
(`decode_take`).
-/

namespace DexTriage.Mutf8

/-- Six bits are read in the same way from longer bytes. -/
lemma continuation_append {position bytes} (more : List UInt8)
    (lasts : Lasts (continuation position bytes)) :
    continuation position (bytes ++ more) = continuation position bytes := by
  cases bytes with
  | nil =>
    rw [continuation, lasts_error] at lasts
    exact absurd rfl lasts
  | cons byte bytes => rfl

/-- A code unit is read in the same way from longer bytes. -/
lemma unitAt_extend {position bytes} (more : List UInt8) (lasts : Lasts (unitAt position bytes)) :
    unitAt position (bytes ++ more) = unitAt position bytes := by
  cases bytes with
  | nil =>
    rw [unitAt, lasts_error] at lasts
    exact absurd rfl lasts
  | cons lead rest =>
    simp only [List.cons_append, unitAt] at lasts ⊢
    by_cases zero : lead.toNat = 0
    · simp only [if_pos zero]
    by_cases one : lead.toNat < 0x80
    · simp only [if_neg zero, if_pos one]
    by_cases stray : lead.toNat < 0xC0
    · simp only [if_neg zero, if_neg one, if_pos stray]
    by_cases two : lead.toNat < 0xE0
    · simp only [if_neg zero, if_neg one, if_neg stray, if_pos two] at lasts ⊢
      exact lasts.bind_congr (continuation_append more) fun _ _ _ => rfl
    by_cases three : lead.toNat < 0xF0
    · simp only [if_neg zero, if_neg one, if_neg stray, if_neg two, if_pos three] at lasts ⊢
      refine lasts.bind_congr (continuation_append more) fun _ readMiddle lasts => ?_
      obtain ⟨_, rest, rfl, -⟩ := Continues.of_continuation readMiddle
      exact lasts.bind_congr (continuation_append more) fun _ _ _ => rfl
    · simp only [if_neg zero, if_neg one, if_neg stray, if_neg two, if_neg three]

/-- What is behind a unit that is read goes on with what is behind the bytes. -/
lemma drop_append_of_unitAt {position bytes unit width} (more : List UInt8)
    (read : unitAt position bytes = .ok (unit, width)) :
    (bytes ++ more).drop width = bytes.drop width ++ more :=
  List.drop_append_of_le_length (width_le_of_unitAt read).1

/-- Code units are read on in the same way from longer bytes. -/
lemma decodeOnto_append_of_lasts {done position bytes count} (more : List UInt8)
    (lasts : Lasts (decodeOnto done position bytes count)) :
    decodeOnto done position (bytes ++ more) count = decodeOnto done position bytes count := by
  -- every case reads one unit or a pair; what is behind them is the tail of longer bytes again
  fun_induction decodeOnto done position bytes count with
  | case1 => rw [decodeOnto]
  | case2 done position bytes e refused =>
    have same := unitAt_extend more (refused ▸ lasts.of_error)
    simp only [decodeOnto, same, refused]
  | case3 done position bytes unit width read high =>
    have same := unitAt_extend more (read ▸ lasts_ok _)
    simp [decodeOnto, same, read, high]
  | case4 done position bytes unit width read high low =>
    have same := unitAt_extend more (read ▸ lasts_ok _)
    simp [decodeOnto, same, read, high, low]
  | case5 done position bytes unit width read high low =>
    have same := unitAt_extend more (read ▸ lasts_ok _)
    simp [decodeOnto, same, read, high, low]
  | case6 done position bytes count e refused =>
    have same := unitAt_extend more (refused ▸ lasts.of_error)
    simp only [decodeOnto, same, refused]
  | case7 done position bytes count unit width read high e refused =>
    have same := unitAt_extend more (read ▸ lasts_ok _)
    have same' := unitAt_extend more (refused ▸ lasts.of_error)
    simp [decodeOnto, same, read, high, drop_append_of_unitAt more read, same', refused]
  | case8 done position bytes count unit width read high low lowWidth readLow isLow ih =>
    have same := unitAt_extend more (read ▸ lasts_ok _)
    have same' := unitAt_extend more (readLow ▸ lasts_ok _)
    have behind : (bytes ++ more).drop (width + lowWidth) = bytes.drop (width + lowWidth) ++ more := by
      rw [← List.drop_drop, drop_append_of_unitAt more read, drop_append_of_unitAt more readLow,
        List.drop_drop]
    simp [decodeOnto, same, read, high, drop_append_of_unitAt more read, same', readLow, isLow,
      behind, ih lasts]
  | case9 done position bytes count unit width read high low lowWidth readLow isLow =>
    have same := unitAt_extend more (read ▸ lasts_ok _)
    have same' := unitAt_extend more (readLow ▸ lasts_ok _)
    simp [decodeOnto, same, read, high, drop_append_of_unitAt more read, same', readLow, isLow]
  | case10 done position bytes count unit width read high low =>
    have same := unitAt_extend more (read ▸ lasts_ok _)
    simp [decodeOnto, same, read, high, low]
  | case11 done position bytes count unit width read high low ih =>
    have same := unitAt_extend more (read ▸ lasts_ok _)
    simp [decodeOnto, same, read, high, low, drop_append_of_unitAt more read, ih lasts]

/-- A text that is read, or refused for another reason than that the bytes end, does not depend on
what is behind the bytes. -/
lemma decode_append {bytes count} (more : List UInt8) (lasts : Lasts (decode bytes count)) :
    decode (bytes ++ more) count = decode bytes count :=
  decodeOnto_append_of_lasts more lasts

/-- Three bytes for every code unit decide what comes of a text. -/
lemma decode_take {bytes : List UInt8} {count size : Nat} (enough : 3 * count ≤ size) :
    decode (bytes.take size) count = decode bytes count := by
  by_cases whole : bytes.length ≤ size
  · rw [List.take_of_length_le whole]
  have lasts : Lasts (decode (bytes.take size) count) := by
    intro e refused
    obtain ⟨place, fault, rfl, -⟩ := isPlaced_of_decodeOnto refused
    rintro rfl
    have short := (isPlaced_of_decodeOnto refused).length_lt
    rw [List.length_take] at short
    omega
  have longer := decode_append (bytes.drop size) lasts
  rwa [List.take_append_drop, eq_comm] at longer

end DexTriage.Mutf8
