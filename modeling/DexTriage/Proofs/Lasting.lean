import Mathlib
import DexTriage.Image.Uleb128
import DexTriage.Proofs.Bytes
import DexTriage.Proofs.Except

/-!
# Results that last

A buffer may be the beginning of a longer one. `Lasts` says of a result that more bytes behind the
buffer cannot change it: it is a value, or an error for another reason than that the buffer ends.
Numbers at offsets (`Bytes.numberAt_append`) and variable-length numbers (`Uleb128.read_append`) are
read from the longer buffer just as from the shorter one, if what comes of them lasts;
`Lasts.bind_congr` carries that through a chain of steps.
-/

namespace DexTriage

/-- The error is for another reason than that the buffer ends. -/
def ImageError.IsLasting : ImageError → Prop
  | stringTooLong _ _ => True
  | malformedVarint _ => True
  | invalidEncoding _ fault => fault ≠ .truncated
  | offsetOutOfRange _ _ _ | invalidMagic _ | headerTruncated _ _ => False

/-- The result is a value, or an error for another reason than that the buffer ends. -/
def Lasts {α : Type} (result : Except ImageError α) : Prop :=
  ∀ e, result = .error e → e.IsLasting

variable {α β : Type}

/-- A value lasts. -/
lemma lasts_ok (a : α) : Lasts (.ok a : Except ImageError α) :=
  nofun

/-- An error lasts if it is for a reason that does. -/
lemma lasts_error {e : ImageError} : Lasts (.error e : Except ImageError α) ↔ e.IsLasting :=
  ⟨fun lasts => lasts e rfl, fun lasting _ eq => by cases eq; exact lasting⟩

/-- Whether an error lasts does not depend on what it is returned instead of. -/
lemma Lasts.of_error {e : ImageError} (lasts : Lasts (.error e : Except ImageError α)) :
    Lasts (.error e : Except ImageError β) :=
  lasts_error.2 (lasts_error.1 lasts)

/-- The first step of a chain lasts if the whole of it does. -/
lemma Lasts.of_bind {x : Except ImageError α} {next : α → Except ImageError β}
    (lasts : Lasts (x >>= next)) : Lasts x := by
  cases x with
  | ok a => exact lasts_ok a
  | error e => exact lasts.of_error

/-- Two chains agree if they agree in every step whose result lasts. -/
lemma Lasts.bind_congr {x x' : Except ImageError α} {next next' : α → Except ImageError β}
    (lasts : Lasts (x >>= next)) (first : Lasts x → x' = x)
    (later : ∀ a, x = .ok a → Lasts (next a) → next' a = next a) : x' >>= next' = x >>= next := by
  rw [first lasts.of_bind]
  cases x with
  | error e => rfl
  | ok a =>
    rw [ok_bind] at lasts ⊢
    exact later a rfl lasts

namespace Bytes

/-- What is behind an offset goes on with what is behind the buffer. -/
lemma drop_append {data : Bytes} {offset} (more : Bytes) (inside : offset ≤ data.size) :
    (data ++ more).toList.drop offset = data.toList.drop offset ++ more.toList := by
  rw [Array.toList_append, List.drop_append_of_le_length (by rwa [Array.length_toList])]

/-- A window within the buffer shows nothing of what is behind the buffer. -/
lemma window_append {data : Bytes} {offset count} (more : Bytes)
    (inside : offset + count ≤ data.size) :
    (data ++ more).window offset count = data.window offset count := by
  have room : count ≤ (data.toList.drop offset).length := by
    rw [List.length_drop, Array.length_toList]
    omega
  rw [window_eq, window_eq, drop_append more (by omega), List.take_append_of_le_length room]

/-- A number that is read is the same in a longer buffer. -/
lemma numberAt_append {data : Bytes} {offset width} (more : Bytes)
    (lasts : Lasts (data.numberAt offset width)) :
    (data ++ more).numberAt offset width = data.numberAt offset width := by
  by_cases inside : offset + width ≤ data.size
  · have inside' : offset + width ≤ (data ++ more).size := by
      rw [Array.size_append]
      omega
    rw [numberAt, numberAt, if_pos inside, if_pos inside', window_append more inside]
  · rw [numberAt, if_neg inside, lasts_error] at lasts
    exact lasts.elim

/-- A mapped result lasts only if the result itself does. -/
lemma lasts_of_map {f : α → β} {x : Except ImageError α} (lasts : Lasts (x.map f)) : Lasts x := by
  cases x with
  | ok a => exact lasts_ok a
  | error e => exact lasts.of_error

/-- A byte that is read is the same in a longer buffer. -/
lemma byteAt_append {data : Bytes} {offset} (more : Bytes) (lasts : Lasts (data.byteAt offset)) :
    (data ++ more).byteAt offset = data.byteAt offset := by
  rw [byteAt, byteAt, numberAt_append more (lasts_of_map lasts)]

/-- A word that lies in a buffer lies in a longer one. -/
lemma HasWord.append {data : Bytes} {offset word} (has : data.HasWord offset word) (more : Bytes) :
    (data ++ more).HasWord offset word := by
  obtain ⟨inside, rfl⟩ := hasWord_iff.1 has
  have inside' : offset + 4 ≤ (data ++ more).size := by
    rw [Array.size_append]
    omega
  exact hasWord_iff.2 ⟨inside', by rw [word, word, window_append more inside]⟩

end Bytes

namespace Uleb128

/-- A number is read on in the same way from a longer buffer. -/
lemma readFrom_append {data : Bytes} {start room width value : Nat} (more : Bytes)
    (lasts : Lasts (readFrom data start room width value)) :
    readFrom (data ++ more) start room width value = readFrom data start room width value := by
  induction room generalizing width value with
  | zero => rfl
  | succ room ih =>
    rw [readFrom] at lasts ⊢
    rw [readFrom]
    refine lasts.bind_congr (Bytes.byteAt_append more) fun byte _ lasts => ?_
    by_cases last : byte.toNat < 128
    · simp only [if_pos last]
    · simp only [if_neg last] at lasts ⊢
      exact ih lasts

/-- A variable-length number is the same in a longer buffer, and so is the error for one that goes
on for too long. -/
lemma read_append {data : Bytes} {offset : Nat} (more : Bytes) (lasts : Lasts (read data offset)) :
    read (data ++ more) offset = read data offset :=
  readFrom_append more lasts

end Uleb128

end DexTriage
