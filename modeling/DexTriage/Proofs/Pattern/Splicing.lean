import DexTriage.Proofs.Pattern.Reading

/-!
# Patterns spliced into a group

A pattern is anchored by putting its text between an opening and a closing. `spliced` says what
becomes of it, however many groups are open before it: it is read just as on its own, and the closing
behind it, unless a comment at its end swallows the closing, or a parenthesis of its own closes a
group that it has not opened. The proof follows the run step by step: every step does the same in
front of the closing (`syntaxStep_agrees`) and within a group (`syntaxStep_within`), or else leaves
more groups open than there are parentheses to close them (`readPattern_eq_none`).
-/

namespace DexTriage.Pattern

/-- What becomes of reading a pattern, in at most `fuel` steps, when the closing may stand behind it
and groups are open around it, in at most `fuel'` steps. -/
inductive Spliced (fuel fuel' : Nat) (state : SyntaxState) (text text' : List Char) : Prop where
  /-- There is no tree either way. -/
  | refused :
    readPattern fuel state text = none →
    (∀ outer ≠ [], readPattern fuel' (state.within outer) text' = none) →
    Spliced fuel fuel' state text text'
  /-- A parenthesis closes a group that the pattern has not opened. -/
  | outside :
    ComesToParenthesis state text →
    Spliced fuel fuel' state text text'
  /-- A comment at the end swallows the closing. -/
  | swallowed (final : SyntaxState) :
    final.groups = [] →
    readPattern fuel state text = some final.level.close →
    (∀ outer, readPattern fuel' (state.within outer) text' = (final.within outer).finish?) →
    Spliced fuel fuel' state text text'
  /-- The closing is what comes next behind the pattern. -/
  | kept (final : SyntaxState) (left : Nat) :
    final.groups = [] →
    readPattern fuel state text = some final.level.close →
    (∀ outer, readPattern fuel' (state.within outer) text' =
      readPattern (left + 3) (final.within outer) closing) →
    Spliced fuel fuel' state text text'

/-- No tree is read with groups open around it when the text ends. -/
lemma finish?_within {state : SyntaxState} {outer : List OpenGroup} (around : outer ≠ []) :
    (state.within outer).finish? = none :=
  finish?_eq_none (List.append_ne_nil_of_right_ne_nil _ around)

/-- The tree of a text that ends while no group is open. -/
lemma finish?_eq_some {state : SyntaxState} (closed : state.groups = []) :
    state.finish? = some state.level.close := by
  rw [SyntaxState.finish?, closed]
  rfl

/-- Only what is not skipped of a text counts. -/
lemma readPattern_of_closing (state : SyntaxState) {text} (fuel)
    (ends : skip state.verbose text = closing) :
    readPattern (fuel + 1) state text = readPattern (fuel + 1) state closing := by
  have kept : skip state.verbose closing = closing := by cases state.verbose <;> rfl
  rw [readPattern, readPattern, ends, kept]

namespace Spliced

variable {fuel fuel' : Nat} {state next : SyntaxState} {text text' rest rest' : List Char}

/-- The pattern ends in front of the closing. -/
lemma of_end (done : skip state.verbose text = []) (ends : skip state.verbose text' = closing)
    (enough' : text'.length < fuel' + 1) : Spliced (fuel + 1) (fuel' + 1) state text text' := by
  have room := (skip_suffix state.verbose text').length_le
  rw [ends] at room
  have room : 2 ≤ text'.length := room
  obtain ⟨left, rfl⟩ := Nat.exists_eq_add_of_le' (show 2 ≤ fuel' by omega)
  by_cases closed : state.groups = []
  · refine .kept state left closed ?_ fun outer => ?_
    · rw [readPattern_of_end _ _ done, finish?_eq_some closed]
    · exact readPattern_of_closing (state.within outer) (left + 2) ends
  · refine .refused ?_ fun outer around => ?_
    · rw [readPattern_of_end _ _ done, finish?_eq_none closed]
    · rw [readPattern_of_closing (state.within outer) (left + 2) ends]
      -- one parenthesis cannot close both a group of the pattern and one around it
      apply readPattern_eq_none
      have inner := List.length_pos_of_ne_nil closed
      have outside := List.length_pos_of_ne_nil around
      show closing.count ')' < (state.groups ++ outer).length
      rw [List.length_append, show closing.count ')' = 1 from rfl]
      omega

/-- The pattern ends, and the closing has been swallowed. -/
lemma of_swallowed (done : skip state.verbose text = []) (done' : skip state.verbose text' = []) :
    Spliced (fuel + 1) (fuel' + 1) state text text' := by
  have finished (outer) := readPattern_of_end (state.within outer) fuel' done'
  by_cases closed : state.groups = []
  · refine .swallowed state closed ?_ finished
    rw [readPattern_of_end _ _ done, finish?_eq_some closed]
  · refine .refused ?_ fun outer around => ?_
    · rw [readPattern_of_end _ _ done, finish?_eq_none closed]
    · rw [finished, finish?_within around]

/-- The pattern goes on with a step that is the same. -/
lemma of_step {c behind behind'} (more : skip state.verbose text = c :: behind)
    (more' : skip state.verbose text' = c :: behind')
    (inside : ¬ (c = ')' ∧ state.groups = []))
    (step : syntaxStep state c behind = some (next, rest))
    (step' : syntaxStep state c behind' = some (next, rest'))
    (later : Spliced fuel fuel' next rest rest') :
    Spliced (fuel + 1) (fuel' + 1) state text text' := by
  have alone : readPattern (fuel + 1) state text = readPattern fuel next rest := by
    rw [readPattern_of_step _ fuel more, step]
    rfl
  have around (outer) : readPattern (fuel' + 1) (state.within outer) text' =
      readPattern fuel' (next.within outer) rest' := by
    rw [readPattern_of_step (state.within outer) fuel' more',
      syntaxStep_within behind' outer inside, step']
    rfl
  cases later with
  | refused fails fails' =>
    exact .refused (alone.trans fails) fun outer some => (around outer).trans (fails' outer some)
  | outside comes =>
    obtain ⟨final, left, reads, closed, parenthesis⟩ := comes
    exact .outside ⟨final, left, .step more step reads, closed, parenthesis⟩
  | swallowed final closed reads reads' =>
    exact .swallowed final closed (alone.trans reads) fun outer => (around outer).trans (reads' outer)
  | kept final left closed reads reads' =>
    exact .kept final left closed (alone.trans reads) fun outer =>
      (around outer).trans (reads' outer)

/-- The pattern fails in a step that either fails also in front of the closing, or takes in some of
it. -/
lemma of_failure {c behind behind'} (more : skip state.verbose text = c :: behind)
    (more' : skip state.verbose text' = c :: behind')
    (inside : ¬ (c = ')' ∧ state.groups = []))
    (fails : syntaxStep state c behind = none)
    (lost : ∀ next rest, syntaxStep state c behind' = some (next, rest) →
      ∀ outer ≠ [], readPattern fuel' (next.within outer) rest = none) :
    Spliced (fuel + 1) (fuel' + 1) state text text' := by
  refine .refused ?_ fun outer around => ?_
  · rw [readPattern_of_step _ fuel more, fails]
    rfl
  · rw [readPattern_of_step (state.within outer) fuel' more',
      syntaxStep_within behind' outer inside]
    cases step : syntaxStep state c behind' with
    | none => rfl
    | some result => exact lost result.1 result.2 step outer around

end Spliced

/-- Reading a pattern in front of the closing, with groups open around it. -/
theorem spliced {state : SyntaxState} {text text' : List Char} (h : Onward text text')
    {fuel fuel' : Nat} (enough : text.length < fuel) (enough' : text'.length < fuel') :
    Spliced fuel fuel' state text text' := by
  induction fuel generalizing fuel' state text text' with
  | zero => cases enough
  | succ fuel ih =>
    obtain ⟨fuel', rfl⟩ : ∃ k, fuel' = k + 1 := ⟨fuel' - 1, by omega⟩
    have onward := skip_onward state.verbose h
    have part := (skip_suffix state.verbose text).length_le
    have part' := (skip_suffix state.verbose text').length_le
    generalize more : skip state.verbose text = left, more' : skip state.verbose text' = left'
      at onward part part'
    cases onward with
    | closed => exact .of_end more more' enough'
    | swallowed => exact .of_swallowed more more'
    | @cons c behind behind' onward =>
      by_cases outside : c = ')' ∧ state.groups = []
      · obtain ⟨rfl, closed⟩ := outside
        refine .outside ⟨state, text, .refl, closed, ?_⟩
        rw [more]
        rfl
      obtain agrees | ⟨fails, next, rest, step', refused⟩ := syntaxStep_agrees state c onward
      · cases step : syntaxStep state c behind with
        | none =>
          refine .of_failure more more' outside step fun next rest step' outer around => ?_
          rw [step, step'] at agrees
          obtain _ | _ | lost := agrees
          apply readPattern_eq_none
          have none := lost.sublist.count_le ')'
          have some := List.length_pos_of_ne_nil around
          show rest.count ')' < (next.groups ++ outer).length
          rw [show ['$'].count ')' = 0 from rfl] at none
          rw [List.length_append]
          omega
        | some result =>
          cases step' : syntaxStep state c behind' with
          | none =>
            rw [step, step'] at agrees
            cases agrees
          | some result' =>
            rw [step, step'] at agrees
            obtain _ | agreed := agrees
            have less := (leaves_syntaxStep state c behind _ _ step).length_le
            have less' := (leaves_syntaxStep state c behind' _ _ step').length_le
            rw [List.length_cons] at part part'
            exact .of_step more more' outside step step' (ih agreed (by omega) (by omega))
      · refine .of_failure more more' outside fails fun _ _ step outer _ => ?_
        rw [step'] at step
        cases step
        cases fuel' with
        | zero => rfl
        | succ fuel' =>
          rw [readPattern_of_step _ fuel' (skip_brace (next.within outer).verbose rest), syntaxStep]
          show Option.bind (bounds next.verbose rest >>= _) _ = none
          rw [refused]
          rfl

end DexTriage.Pattern
