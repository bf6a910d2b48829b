import DexTriage.Proofs.Pattern.Closing.Step

/-!
# Reading a pattern

Reading goes step by step, which `Reads` records. With more groups open around it a pattern is read
in the same way, step by step, as long as it closes none of them (`syntaxStep_within`). A step closes
at most one group and takes in a parenthesis for it (`groups_of_syntaxStep`), so that a text with too
few of them cannot be read to its end (`readPattern_eq_none`).
-/

namespace DexTriage.Pattern

/-- Steps that reading a pattern takes, from a state with a text before it to another one. -/
inductive Reads : SyntaxState → List Char → SyntaxState → List Char → Prop where
  | refl {state text} :
    Reads state text state text
  | step {state text c behind next rest final left} :
    skip state.verbose text = c :: behind →
    syntaxStep state c behind = some (next, rest) →
    Reads next rest final left →
    Reads state text final left

/-- Reading comes to a closing parenthesis while no group is open. -/
def ComesToParenthesis (state : SyntaxState) (text : List Char) : Prop :=
  ∃ final left, Reads state text final left ∧ final.groups = [] ∧
    (skip final.verbose left).head? = some ')'

/-- The same state with more groups open around it. -/
def SyntaxState.within (outer : List OpenGroup) (state : SyntaxState) : SyntaxState :=
  { state with groups := state.groups ++ outer }

/-! ## Groups that are open -/

/-- A step leaves the open groups as they are, opens one, or closes the innermost one with a
parenthesis. -/
lemma groups_of_syntaxStep {state c text next rest}
    (step : syntaxStep state c text = some (next, rest)) :
    next.groups = state.groups ∨ (∃ group, next.groups = group :: state.groups) ∨
      (c = ')' ∧ ∃ group, state.groups = group :: next.groups) := by
  have repeated {least most x} (eq : repeatLast state least most = some x) :
      x.groups = state.groups := by
    rw [repeatLast.eq_def] at eq
    split at eq
    · cases eq
    · cases eq
    · cases eq
      rfl
  revert step
  fun_cases syntaxStep state c text with
  | case1 =>
    intro step
    obtain ⟨⟨start, behind⟩, -, opened⟩ := Option.bind_eq_some_iff.1 step
    cases start with
    | flags change =>
      cases opened
      exact .inl rfl
    | group change =>
      cases opened
      exact .inr (.inl ⟨_, rfl⟩)
    | named name =>
      dsimp only at opened
      split at opened
      · cases opened
      · cases opened
        exact .inr (.inl ⟨_, rfl⟩)
  | case2 =>
    intro step
    obtain ⟨closed, eq, same⟩ := Option.map_eq_some_iff.1 step
    cases same
    rw [closeGroup] at eq
    split at eq
    · cases eq
    · rename_i group groups isOpen
      cases eq
      exact .inr (.inr ⟨rfl, group, isOpen⟩)
  | case4 =>
    intro step
    obtain ⟨⟨negated, inner, behind⟩, -, pushed⟩ := Option.bind_eq_some_iff.1 step
    cases pushed
    exact .inl rfl
  | case5 =>
    intro step
    obtain ⟨x, eq, same⟩ := Option.map_eq_some_iff.1 step
    cases same
    exact .inl (repeated eq)
  | case6 =>
    intro step
    obtain ⟨x, eq, same⟩ := Option.map_eq_some_iff.1 step
    cases same
    exact .inl (repeated eq)
  | case7 =>
    intro step
    obtain ⟨x, eq, same⟩ := Option.map_eq_some_iff.1 step
    cases same
    exact .inl (repeated eq)
  | case8 =>
    intro step
    obtain ⟨⟨range, behind⟩, -, step⟩ := Option.bind_eq_some_iff.1 step
    obtain ⟨x, eq, same⟩ := Option.bind_eq_some_iff.1 step
    cases same
    exact .inl (repeated eq)
  | case9 =>
    intro step
    obtain ⟨⟨primitive, behind⟩, -, pushed⟩ := Option.bind_eq_some_iff.1 step
    cases pushed
    exact .inl rfl
  | _ =>
    intro step
    cases step
    exact .inl rfl

/-- A group opens in the same way with more groups open around it. -/
lemma openGroup_within (state : SyntaxState) (text outer) :
    openGroup (state.within outer) text =
      (openGroup state text).map fun (next, rest) => (next.within outer, rest) := by
  rw [openGroup, openGroup]
  show (groupStart state.verbose text >>= _) = _
  cases groupStart state.verbose text with
  | none => rfl
  | some result =>
    obtain ⟨start, rest⟩ := result
    cases start with
    | flags change => rfl
    | group change => rfl
    | named name =>
      show (if state.names.contains name then _ else _) =
        Option.map _ (if state.names.contains name then _ else _)
      split <;> rfl

/-- A group closes in the same way with more groups open around it. -/
lemma closeGroup_within {state : SyntaxState} (outer) (isOpen : state.groups ≠ []) :
    closeGroup (state.within outer) = (closeGroup state).map (SyntaxState.within outer) := by
  have same : (state.within outer).groups = state.groups ++ outer := rfl
  rw [closeGroup, closeGroup, same]
  cases eq : state.groups with
  | nil => exact absurd eq isOpen
  | cons group groups => rfl

/-- A part is repeated in the same way with more groups open around it. -/
lemma repeatLast_within (state : SyntaxState) (least most outer) :
    repeatLast (state.within outer) least most =
      (repeatLast state least most).map (SyntaxState.within outer) := by
  have same : (state.within outer).level = state.level := rfl
  rw [repeatLast, repeatLast, same]
  cases state.level.items with
  | nil => rfl
  | cons last items => cases last <;> rfl

/-- A step does the same with more groups open around it, unless it closes one of them. -/
lemma syntaxStep_within {state : SyntaxState} {c} (text outer)
    (inside : ¬ (c = ')' ∧ state.groups = [])) :
    syntaxStep (state.within outer) c text =
      (syntaxStep state c text).map fun (next, rest) => (next.within outer, rest) := by
  rw [syntaxStep.eq_def, syntaxStep.eq_def]
  split
  · exact openGroup_within state text outer
  · rw [closeGroup_within outer fun none => inside ⟨rfl, none⟩]
    cases closeGroup state <;> rfl
  · rfl
  · show (bracketClass state.verbose text >>= _) = _
    cases bracketClass state.verbose text <;> rfl
  iterate 3
    · rw [repeatLast_within]
      cases repeatLast state _ _ <;> rfl
  · show (bounds state.verbose text >>= _) = _
    cases bounds state.verbose text with
    | none => rfl
    | some result =>
      obtain ⟨⟨least, most⟩, rest⟩ := result
      show (repeatLast (state.within outer) least most >>= _) =
        Option.map _ (repeatLast state least most >>= _)
      rw [repeatLast_within]
      cases repeatLast state least most <;> rfl
  · show (escape state.verbose text >>= _) = _
    cases escape state.verbose text <;> rfl
  all_goals rfl

/-! ## Runs -/

/-- Nothing is left to read. -/
lemma readPattern_of_end (state : SyntaxState) {text} (fuel) (done : skip state.verbose text = []) :
    readPattern (fuel + 1) state text = state.finish? := by
  rw [readPattern, done]

/-- Reading goes on with a step. -/
lemma readPattern_of_step (state : SyntaxState) {text c behind} (fuel)
    (more : skip state.verbose text = c :: behind) :
    readPattern (fuel + 1) state text =
      (syntaxStep state c behind).bind fun (next, rest) => readPattern fuel next rest := by
  rw [readPattern, more]
  rfl

/-- A tree is read only when no group is open. -/
lemma finish?_eq_none {state : SyntaxState} (isOpen : state.groups ≠ []) :
    state.finish? = none := by
  rw [SyntaxState.finish?, if_neg]
  rwa [List.isEmpty_iff]

/-- Nothing is read from a text with fewer closing parentheses than there are open groups. -/
lemma readPattern_eq_none {fuel} {state : SyntaxState} {text}
    (unclosed : text.count ')' < state.groups.length) : readPattern fuel state text = none := by
  induction fuel generalizing state text with
  | zero => rfl
  | succ fuel ih =>
    have few := (skip_suffix state.verbose text).sublist.count_le ')'
    cases more : skip state.verbose text with
    | nil =>
      rw [readPattern_of_end _ fuel more]
      apply finish?_eq_none
      intro none
      rw [none] at unclosed
      cases unclosed
    | cons c behind =>
      rw [readPattern_of_step _ fuel more]
      cases step : syntaxStep state c behind with
      | none => rfl
      | some result =>
        obtain ⟨next, rest⟩ := result
        have fewer := (leaves_syntaxStep state c behind next rest step).sublist.count_le ')'
        rw [more, List.count_cons] at few
        refine ih ?_
        obtain same | ⟨group, opened⟩ | ⟨rfl, group, closed⟩ := groups_of_syntaxStep step
        · rw [same]
          omega
        · rw [opened, List.length_cons]
          omega
        · rw [closed, List.length_cons] at unclosed
          rw [beq_self_eq_true, if_pos rfl] at few
          omega

/-- What reading has come to decides about the rest. -/
lemma Reads.readPattern_eq {state text final left} (reads : Reads state text final left)
    {fuel : Nat} (enough : text.length < fuel) :
    ∃ fuel' : Nat, left.length < fuel' ∧ readPattern fuel state text = readPattern fuel' final left := by
  induction reads generalizing fuel with
  | refl => exact ⟨fuel, enough, rfl⟩
  | @step state text c behind next rest _ _ more step _ ih =>
    obtain ⟨fuel, rfl⟩ : ∃ k, fuel = k + 1 := ⟨fuel - 1, by omega⟩
    have part := (skip_suffix state.verbose text).length_le
    have less := (leaves_syntaxStep state c behind next rest step).length_le
    rw [more, List.length_cons] at part
    obtain ⟨fuel', enough', same⟩ := ih (show rest.length < fuel by omega)
    refine ⟨fuel', enough', ?_⟩
    rw [readPattern_of_step _ fuel more, step]
    exact same

/-- A parenthesis that closes no group cannot be read. -/
lemma readPattern_of_parenthesis {state : SyntaxState} {text} (comes : ComesToParenthesis state text)
    {fuel : Nat} (enough : text.length < fuel) : readPattern fuel state text = none := by
  obtain ⟨final, left, reads, closed, parenthesis⟩ := comes
  obtain ⟨fuel', enough', same⟩ := reads.readPattern_eq enough
  obtain ⟨fuel', rfl⟩ : ∃ k, fuel' = k + 1 := ⟨fuel' - 1, by omega⟩
  cases more : skip final.verbose left with
  | nil =>
    rw [more] at parenthesis
    cases parenthesis
  | cons c behind =>
    rw [more] at parenthesis
    obtain rfl : c = ')' := Option.some.inj parenthesis
    rw [same, readPattern_of_step _ fuel' more, syntaxStep, closeGroup, closed]
    rfl

end DexTriage.Pattern
