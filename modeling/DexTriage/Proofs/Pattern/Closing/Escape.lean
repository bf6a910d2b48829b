import DexTriage.Proofs.Pattern.Closing.Onward

/-!
# Escapes in front of the closing

Every escape gives the same in front of the closing, unless the pattern breaks off within it. Nothing
closes a brace there. The one escape that looks ahead is the word boundary: a brace that is the last
thing in a pattern is refused behind it, but left to be read on in front of the closing
(`IsStuck`).
-/

namespace DexTriage.Pattern

open DexTriage.Unicode

/-- The next characters are the same, or some of them are those of the closing. -/
lemma significant_agrees (verbose inComment count) {text text'} (h : Onward text text') :
    Agrees ['$'] (significant verbose inComment count text)
      (significant verbose inComment count text') := by
  induction h generalizing inComment count with
  | closed =>
    cases count with
    | zero =>
      rw [significant, significant]
      exact .read .closed
    | succ count =>
      rw [significant]
      exact .of_leaves (leaves_significant_succ verbose inComment count ')' ['$'])
  | swallowed => exact .refl _
  | cons c h ih =>
    cases count with
    | zero =>
      rw [significant, significant]
      exact .read (.cons c h)
    | succ count =>
      cases inComment with
      | true => exact ih _ _
      | false =>
        rw [significant, significant]
        split_ifs
        · exact ih false (count + 1)
        · exact ih true (count + 1)
        · exact (ih false count).map (fun _ _ _ => rfl) fun _ _ => rfl

/-- The closing has no brace. -/
lemma braced_agrees (verbose inComment) {text text'} (h : Onward text text') :
    Agrees ['$'] (braced verbose inComment text) (braced verbose inComment text') := by
  induction h generalizing inComment with
  | closed => cases verbose <;> cases inComment <;> exact .refused
  | swallowed => exact .refl _
  | cons c h ih =>
    cases inComment with
    | true => exact ih _
    | false =>
      rw [braced, braced]
      split_ifs
      · exact ih false
      · exact ih true
      · exact .read h
      · exact (ih false).map (fun _ _ _ => rfl) fun _ _ => rfl

/-- A character in hexadecimal digits in front of the closing. -/
lemma hexEscape_agrees (verbose count) {text text'} (h : Onward text text') :
    Agrees ['$'] (hexEscape verbose count text) (hexEscape verbose count text') := by
  have digits {text text'} (h : Onward text text') :
      Agrees ['$']
        (do
          let found ← significant verbose false count text
          return (Primitive.literal ⟨← hexChar? found.1, count == 2⟩, found.2))
        (do
          let found ← significant verbose false count text'
          return (Primitive.literal ⟨← hexChar? found.1, count == 2⟩, found.2)) :=
    (significant_agrees verbose false count h).bind
      (fun digits text text' h => .guarded fun c => .read h)
      fun digits text => .guarded fun c => .read List.suffix_rfl
  replace h := skip_onward verbose h
  rw [hexEscape, hexEscape]
  generalize skip verbose text = text, skip verbose text' = text' at h ⊢
  cases h with
  | closed => exact digits .closed
  | swallowed => exact .refl _
  | cons c h =>
    by_cases brace : c = '\x7b'
    · subst brace
      exact (braced_agrees verbose false h).bind
        (fun digits text text' h => .guarded fun c => .read h)
        fun digits text => .guarded fun c => .read List.suffix_rfl
    · split
      · rename_i eq
        cases eq
        exact absurd rfl brace
      · split
        · rename_i eq
          cases eq
          exact absurd rfl brace
        · exact digits (.cons c h)

/-- A property in front of the closing, which has none of the marks that a property starts with. -/
lemma propertyEscape_agrees (verbose negated) {text text'} (h : Onward text text') :
    Agrees ['$'] (propertyEscape verbose negated text) (propertyEscape verbose negated text') := by
  replace h := skip_onward verbose h
  rw [propertyEscape, propertyEscape]
  generalize skip verbose text = text, skip verbose text' = text' at h ⊢
  cases h with
  | closed => exact .overrun List.suffix_rfl
  | swallowed => exact .refl _
  | cons c h =>
    by_cases brace : c = '\x7b'
    · subst brace
      exact (braced_agrees verbose false h).bind (fun name text text' h => .read h)
        fun name text => .read List.suffix_rfl
    · by_cases backslash : c = '\\'
      · subst backslash
        exact .refused
      · simp only []
        exact .read h

/-- There is no number at the closing. -/
lemma bounds_eq_none {verbose text} (h : skip verbose text = closing) :
    bounds verbose text = none := by
  have : decimal verbose closing = none := by cases verbose <;> rfl
  rw [bounds, h, this]
  rfl

/-- A word boundary fails on the pattern, for a brace is the last thing in it, and leaves the brace
in front of the closing. No repetition can be read there. -/
def IsStuck (verbose : Bool) (x y : Option (Primitive × List Char)) : Prop :=
  x = none ∧ ∃ text, y = some (.assertion .wordBoundary, '\x7b' :: text) ∧ bounds verbose text = none

/-- A word boundary in front of the closing. -/
lemma boundaryEscape_agrees (verbose) {text text'} (h : Onward text text') :
    Agrees ['$'] (boundaryEscape verbose text) (boundaryEscape verbose text') ∨
      IsStuck verbose (boundaryEscape verbose text) (boundaryEscape verbose text') := by
  cases h with
  | closed => exact .inl (.read .closed)
  | swallowed => exact .inl (.refl _)
  | @cons c text text' h =>
    by_cases brace : c = '\x7b'
    · subst brace
      have h' := skip_onward verbose h
      rw [boundaryEscape, boundaryEscape]
      generalize skipped : skip verbose text = left, skipped' : skip verbose text' = left' at h' ⊢
      cases h' with
      | closed => exact .inr ⟨rfl, text', rfl, bounds_eq_none skipped'⟩
      | swallowed => exact .inl .refused
      | cons d =>
        dsimp only
        split_ifs
        · exact .inl ((braced_agrees verbose false h).bind
            (fun name text text' h => .guarded fun a => .read h)
            fun name text => .guarded fun a => .read List.suffix_rfl)
        · exact .inl (.read (.cons _ h))
    · have plain (text) : boundaryEscape verbose (c :: text) =
          some (.assertion .wordBoundary, c :: text) := by
        rw [boundaryEscape.eq_def]
        split
        · rename_i eq
          exact absurd (List.cons.inj eq).1 brace
        · rfl
      rw [plain, plain]
      exact .inl (.read (.cons c h))

/-- Behind most characters an escape takes in nothing more. -/
lemma escape_cons_of_not_mem {c : Char} (short : c ∉ ['x', 'u', 'U', 'p', 'P', 'b']) :
    ∃ x : Option Primitive, ∀ verbose text, escape verbose (c :: text) = x.map (·, text) := by
  refine ⟨(escape false [c]).map Prod.fst, fun verbose text => ?_⟩
  rw [escape.eq_def, escape.eq_def]
  dsimp only
  split
  · rfl
  · split
    all_goals first | rfl | contradiction

/-- An escape in front of the closing. -/
lemma escape_agrees (verbose) {text text'} (h : Onward text text') :
    Agrees ['$'] (escape verbose text) (escape verbose text') ∨
      IsStuck verbose (escape verbose text) (escape verbose text') := by
  cases h with
  | closed => exact .inl (.overrun List.suffix_rfl)
  | swallowed => exact .inl (.refl _)
  | @cons c text text' h =>
    by_cases long : c ∈ ['x', 'u', 'U', 'p', 'P', 'b']
    · simp only [List.mem_cons, List.not_mem_nil, or_false] at long
      obtain rfl | rfl | rfl | rfl | rfl | rfl := long
      · exact .inl (hexEscape_agrees verbose 2 h)
      · exact .inl (hexEscape_agrees verbose 4 h)
      · exact .inl (hexEscape_agrees verbose 8 h)
      · exact .inl (propertyEscape_agrees verbose false h)
      · exact .inl (propertyEscape_agrees verbose true h)
      · exact boundaryEscape_agrees verbose h
    · obtain ⟨x, eq⟩ := escape_cons_of_not_mem long
      rw [eq, eq]
      cases x with
      | none => exact .inl .refused
      | some primitive => exact .inl (.read h)

end DexTriage.Pattern
