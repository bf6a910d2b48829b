/-!
# Sets of positions

The positions in a text that a match has come to, as a list in falling order and without
repetition. Falling order makes it cheap to add a few positions that lie beyond the others.
`mem_union` and `mem_minus` say what the operations on such lists amount to.
-/

namespace DexTriage.Pattern

/-- Positions in a text, in falling order. -/
abbrev Positions := List Nat

namespace Positions

/-- Every position from zero to `last`. -/
def upTo (last : Nat) : Positions := (List.range (last + 1)).reverse

/-- The positions in either list. -/
def union : Positions → Positions → Positions
  | [], js => js
  | is, [] => is
  | i :: is, j :: js =>
    if j < i then i :: union is (j :: js)
    else if i < j then j :: union (i :: is) js
    else i :: union is js
termination_by is js => is.length + js.length

/-- The positions in the first list that are not in the second one. -/
def minus : Positions → Positions → Positions
  | [], _ => []
  | is, [] => is
  | i :: is, j :: js =>
    if j < i then i :: minus is (j :: js)
    else if i < j then minus (i :: is) js
    else minus is js
termination_by is js => is.length + js.length

/-- Whether a list is in falling order, without repetition. -/
def IsFalling (is : Positions) : Prop := is.Pairwise (· > ·)

theorem mem_union {n : Nat} {is js : Positions} : n ∈ union is js ↔ n ∈ is ∨ n ∈ js := by
  fun_induction union is js with
  | case1 => simp
  | case2 => simp
  | case3 i is j js _ ih => simp only [List.mem_cons, ih, or_assoc]
  | case4 i is j js _ _ ih =>
    rw [List.mem_cons, ih, List.mem_cons (b := j)]
    exact or_left_comm
  | case5 i is j js _ _ ih =>
    obtain rfl : i = j := by omega
    simp only [List.mem_cons, ih]
    exact ⟨fun h => h.elim (.inl ∘ .inl) (fun h => h.imp .inr .inr),
      fun h => h.elim (fun h => h.imp id .inl) (fun h => h.imp id .inr)⟩

theorem mem_minus {n : Nat} {is js : Positions} (his : IsFalling is) (hjs : IsFalling js) :
    n ∈ minus is js ↔ n ∈ is ∧ n ∉ js := by
  fun_induction minus is js with
  | case1 => simp
  | case2 => simp
  | case3 i is j js hji ih =>
    have below : ∀ k ∈ js, k < j := fun _ => List.rel_of_pairwise_cons hjs
    have fresh : i ∉ j :: js := by
      intro h
      cases List.mem_cons.1 h with
      | inl h => omega
      | inr h => have := below i h; omega
    rw [List.mem_cons, ih his.of_cons hjs, List.mem_cons (b := i)]
    constructor
    · rintro (rfl | ⟨h, h'⟩)
      · exact ⟨.inl rfl, fresh⟩
      · exact ⟨.inr h, h'⟩
    · rintro ⟨rfl | h, h'⟩
      · exact .inl rfl
      · exact .inr ⟨h, h'⟩
  | case4 i is j js _ hij ih =>
    have below : ∀ k ∈ is, k < i := fun _ => List.rel_of_pairwise_cons his
    rw [ih his hjs.of_cons]
    refine and_congr_right fun h => not_congr ?_
    rw [List.mem_cons]
    refine (or_iff_right ?_).symm
    rintro rfl
    cases List.mem_cons.1 h with
    | inl h => omega
    | inr h => have := below n h; omega
  | case5 i is j js _ _ ih =>
    obtain rfl : i = j := by omega
    have below : ∀ k ∈ is, k < i := fun _ => List.rel_of_pairwise_cons his
    rw [ih his.of_cons hjs.of_cons, List.mem_cons, List.mem_cons, not_or]
    constructor
    · rintro ⟨h, h'⟩
      have := below n h
      exact ⟨.inr h, by omega, h'⟩
    · rintro ⟨h | h, h', h''⟩
      · exact absurd h h'
      · exact ⟨h, h''⟩

end Positions

end DexTriage.Pattern
