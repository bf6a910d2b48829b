import Mathlib

/-!
# Chains of steps that may be refused

What a chain of two steps in `Except` gives, in terms of what each of them gives. Readers of an
image are such chains, and are taken apart with these lemmas.
-/

namespace DexTriage

variable {ε α β : Type}

@[simp] lemma ok_bind (a : α) (next : α → Except ε β) : (Except.ok a >>= next) = next a := rfl

@[simp] lemma error_bind (e : ε) (next : α → Except ε β) :
    ((Except.error e : Except ε α) >>= next) = .error e := rfl

/-- A chain gives a value when both of its steps do. -/
lemma bind_eq_ok_iff {x : Except ε α} {next : α → Except ε β} {b : β} :
    x >>= next = .ok b ↔ ∃ a, x = .ok a ∧ next a = .ok b := by
  cases x with
  | error e => simp
  | ok a => simp

/-- A chain is refused when its first step is, or the second one after it. -/
lemma bind_eq_error_iff {x : Except ε α} {next : α → Except ε β} {e : ε} :
    x >>= next = .error e ↔ x = .error e ∨ ∃ a, x = .ok a ∧ next a = .error e := by
  cases x with
  | error e => simp
  | ok a => simp

/-- A mapped result is refused when the result is. -/
lemma map_eq_error_iff {f : α → β} {x : Except ε α} {e : ε} : x.map f = .error e ↔ x = .error e := by
  cases x with
  | error e => simp [Except.map]
  | ok a => simp [Except.map]

section Guard

variable {p : Prop} [Decidable p] {a : α} {e : ε}

/-- A guarded value is there when the guard holds. -/
lemma exists_guarded_eq_ok_iff : (∃ b, (if p then Except.ok a else .error e) = .ok b) ↔ p := by
  by_cases holds : p
  · simp [holds]
  · simp [holds]

/-- A guarded value is refused when the guard does not hold. -/
lemma guarded_eq_error_iff {e' : ε} :
    (if p then Except.ok a else .error e) = .error e' ↔ ¬ p ∧ e' = e := by
  by_cases holds : p
  · simp [holds]
  · simp [holds, eq_comm]

end Guard

end DexTriage
