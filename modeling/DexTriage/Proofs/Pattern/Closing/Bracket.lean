import DexTriage.Proofs.Pattern.Closing.Escape

/-!
# Classes in front of the closing

A class that the pattern closes gives the same in front of the closing, and one that it leaves open
gives nothing in front of it either, for there is no bracket in the closing (`bracketClass_onward`).
On the way an item may take in characters of the closing.
-/

namespace DexTriage.Pattern

open DexTriage.Unicode

/-- Without the sign of negation all of the text is left. -/
lemma readNegation_plain {c text} (plain : c ≠ '^') :
    readNegation false (c :: text) = (false, c :: text) := by
  rw [readNegation]
  split
  · rename_i eq
    exact absurd (List.cons.inj eq).1 plain
  · rfl

/-- The sign of negation is not in the closing. -/
lemma readNegation_onward (verbose) {text text'} (h : Onward text text') :
    ∃ negated rest rest', readNegation verbose text = (negated, rest) ∧
      readNegation verbose text' = (negated, rest') ∧ Onward rest rest' := by
  replace h := skip_onward verbose h
  show ∃ negated rest rest', readNegation false (skip verbose text) = (negated, rest) ∧
    readNegation false (skip verbose text') = (negated, rest') ∧ Onward rest rest'
  generalize skip verbose text = text, skip verbose text' = text' at h ⊢
  cases h with
  | closed => exact ⟨false, _, _, rfl, rfl, .closed⟩
  | swallowed => exact ⟨false, _, _, rfl, rfl, .swallowed⟩
  | cons c h =>
    by_cases sign : c = '^'
    · subst sign
      exact ⟨true, _, _, rfl, rfl, h⟩
    · exact ⟨false, _, _, readNegation_plain sign, readNegation_plain sign, .cons c h⟩

/-- A named class starts with a colon. Its sign of negation is read as that of a bracket. -/
lemma namedClass?_colon (text) : namedClass? (':' :: text) =
    let (negated, text) := readNegation false text
    match text.dropWhile (· ≠ ':') with
    | ':' :: ']' :: rest => do
      let ranges ← asciiClass? (String.ofList (text.takeWhile (· ≠ ':')))
      return (.ascii ranges negated, rest)
    | _ => none := rfl

/-- A named class is there on the pattern if it is in front of the closing. -/
lemma namedClass?_onward {text text'} (h : Onward text text') :
    (namedClass? text = none ∧ namedClass? text' = none) ∨
      ∃ item rest rest', namedClass? text = some (item, rest) ∧
        namedClass? text' = some (item, rest') ∧ Onward rest rest' := by
  cases h with
  | closed => exact .inl ⟨rfl, rfl⟩
  | swallowed => exact .inl ⟨rfl, rfl⟩
  | @cons c text text' h =>
    by_cases colon : c = ':'
    · subst colon
      obtain ⟨negated, body, body', eq, eq', h⟩ := readNegation_onward false h
      rw [namedClass?_colon, namedClass?_colon, eq, eq']
      have dropped := h.dropWhile (p := fun c => decide (c ≠ ':')) .swallowed
      have taken := h.takeWhile (p := fun c => decide (c ≠ ':'))
      dsimp only
      generalize body.dropWhile _ = left, body'.dropWhile _ = left' at dropped taken ⊢
      by_cases ended : ∃ rest, left = ':' :: ']' :: rest
      · obtain ⟨rest, rfl⟩ := ended
        obtain _ | _ | ⟨_, _ | _ | ⟨_, dropped⟩⟩ := dropped
        rw [taken (List.cons_ne_nil _ _)]
        cases asciiClass? _ with
        | none => exact .inl ⟨rfl, rfl⟩
        | some ranges => exact .inr ⟨_, _, _, rfl, rfl, dropped⟩
      · have ended' : ¬ ∃ rest, left' = ':' :: ']' :: rest := by
          rintro ⟨rest, rfl⟩
          obtain _ | _ | ⟨_, _ | _ | ⟨_, dropped⟩⟩ := dropped
          exact ended ⟨_, rfl⟩
        refine .inl ⟨?_, ?_⟩
        · split
          · exact absurd ⟨_, rfl⟩ ended
          · rfl
        · split
          · exact absurd ⟨_, rfl⟩ ended'
          · rfl
    · refine .inl ⟨?_, ?_⟩
      all_goals
        rw [namedClass?.eq_def]
        split
        · rename_i eq
          exact absurd (List.cons.inj eq).1 colon
        · rfl

/-- There is no dash in the closing. -/
lemma leadingDashes_onward (verbose inComment) {text text'} (h : Onward text text') :
    ∃ count rest rest', leadingDashes verbose inComment text = (count, rest) ∧
      leadingDashes verbose inComment text' = (count, rest') ∧ Onward rest rest' := by
  induction h generalizing inComment with
  | closed =>
    cases inComment with
    | false => cases verbose <;> exact ⟨0, _, _, rfl, rfl, .closed⟩
    | true => cases verbose <;> exact ⟨0, _, _, rfl, rfl, .swallowed⟩
  | swallowed => exact ⟨0, _, _, rfl, rfl, .swallowed⟩
  | cons c h ih =>
    cases inComment with
    | true => exact ih _
    | false =>
      rw [leadingDashes, leadingDashes]
      split_ifs
      · exact ih false
      · exact ih true
      · obtain ⟨count, rest, rest', eq, eq', onward⟩ := ih false
        rw [eq, eq']
        exact ⟨count + 1, rest, rest', rfl, rfl, onward⟩
      · exact ⟨0, _, _, rfl, rfl, .cons c h⟩

/-- Behind dashes, or without a bracket, nothing more stands for itself. -/
lemma readLeading_plain {verbose text count rest}
    (dashes : leadingDashes verbose false text = (count, rest))
    (plain : ¬ ∃ inner, count = 0 ∧ rest = ']' :: inner) :
    readLeading verbose text = (List.replicate count (.literal ⟨'-', false⟩), rest) := by
  rw [readLeading, dashes]
  split
  · rename_i eq
    obtain ⟨rfl, rfl⟩ := Prod.mk.inj eq
    exact absurd ⟨_, rfl, rfl⟩ plain
  · rename_i eq
    obtain ⟨rfl, rfl⟩ := Prod.mk.inj eq
    rfl

/-- The characters that stand for themselves are not in the closing. -/
lemma readLeading_onward (verbose) {text text'} (h : Onward text text') :
    ∃ items rest rest', readLeading verbose text = (items, rest) ∧
      readLeading verbose text' = (items, rest') ∧ Onward rest rest' := by
  obtain ⟨count, rest, rest', eq, eq', onward⟩ := leadingDashes_onward verbose false h
  by_cases bracket : ∃ inner, count = 0 ∧ rest = ']' :: inner
  · obtain ⟨inner, rfl, rfl⟩ := bracket
    obtain _ | _ | ⟨_, onward⟩ := onward
    rw [readLeading, readLeading, eq, eq']
    exact ⟨_, _, _, rfl, rfl, onward⟩
  · have bracket' : ¬ ∃ inner, count = 0 ∧ rest' = ']' :: inner := by
      rintro ⟨inner, rfl, rfl⟩
      obtain _ | _ | ⟨_, onward⟩ := onward
      exact bracket ⟨_, rfl, rfl⟩
    exact ⟨_, rest, rest', readLeading_plain eq bracket, readLeading_plain eq' bracket', onward⟩

/-- A bracket opens alike. -/
lemma openBracket_onward (verbose frames items) {text text'} (h : Onward text text') :
    ∃ state rest rest', openBracket verbose frames items text = (state, rest) ∧
      openBracket verbose frames items text' = (state, rest') ∧ Onward rest rest' := by
  obtain ⟨negated, rest, rest', eq, eq', onward⟩ := readNegation_onward verbose h
  obtain ⟨leading, left, left', read, read', onward⟩ := readLeading_onward verbose onward
  rw [openBracket, openBracket, eq, eq']
  dsimp only
  rw [read, read']
  exact ⟨_, _, _, rfl, rfl, onward⟩

/-- The next character behind a dash is the same, or is a parenthesis for want of one. -/
lemma peekVerbose_onward (seenSign) {text text'} (h : Onward text text') :
    peekVerbose seenSign text' = peekVerbose seenSign text ∨
      peekVerbose seenSign text = none ∧ peekVerbose seenSign text' = some ')' := by
  induction h generalizing seenSign with
  | closed => exact .inr ⟨rfl, rfl⟩
  | swallowed => exact .inl rfl
  | cons c h ih =>
    rw [peekVerbose, peekVerbose]
    split_ifs
    · exact ih seenSign
    · exact ih true
    · exact .inl rfl

/-- Only white space and signs of comments are passed over. -/
lemma peekVerbose_cons {seenSign c text} (blank : isBlank c = false) (sign : c ≠ '#') :
    peekVerbose seenSign (c :: text) = some c := by
  rw [peekVerbose, if_neg (by simp [blank]), if_neg (by simp [sign])]

/-- Whether the mark that ends a class or another dash stands behind a dash is the same. -/
lemma peek_onward (verbose) {text text'} (h : Onward text text') {c : Char}
    (mark : c = ']' ∨ c = '-') : peek verbose text' = some c ↔ peek verbose text = some c := by
  have other : (')' : Char) ≠ c := by obtain rfl | rfl := mark <;> decide
  have plain : isBlank c = false ∧ c ≠ '#' := by obtain rfl | rfl := mark <;> decide
  cases verbose with
  | false =>
    cases h with
    | closed => simp [peek, closing, other]
    | swallowed => rfl
    | cons d => rfl
  | true =>
    rw [peek, peek, if_pos rfl, if_pos rfl]
    obtain eq | ⟨eq, eq'⟩ := peekVerbose_onward false h
    · cases h with
      | closed => cases eq
      | swallowed => rfl
      | cons d => rw [eq, List.head?_cons, List.head?_cons]
    · rw [eq, eq', Option.some_or, Option.none_or]
      cases text with
      | nil => simp [other]
      | cons d text =>
        rw [List.head?_cons]
        refine ⟨fun same => absurd (Option.some.inj same) other, ?_⟩
        rintro ⟨⟩
        rw [peekVerbose_cons plain.1 plain.2] at eq
        cases eq

/-- A primitive in front of the closing. -/
lemma setPrimitive_agrees (verbose) {text text'} (h : Onward text text') :
    Agrees ['$'] (setPrimitive verbose text) (setPrimitive verbose text') ∨
      IsStuck verbose (setPrimitive verbose text) (setPrimitive verbose text') := by
  cases h with
  | closed => exact .inl (.overrun List.suffix_rfl)
  | swallowed => exact .inl (.refl _)
  | @cons c text text' h =>
    by_cases backslash : c = '\\'
    · subst backslash
      exact escape_agrees verbose h
    · have plain (text) : setPrimitive verbose (c :: text) = some (.literal ⟨c, false⟩, text) := by
        rw [setPrimitive.eq_def]
        split
        · rename_i eq
          cases eq
        · rename_i eq
          exact absurd (List.cons.inj eq).1 backslash
        · rename_i eq
          cases eq
          rfl
      rw [plain, plain]
      exact .inl (.read h)

/-- A condition makes no range. -/
lemma rangeItem?_assertion (first a) : rangeItem? first (.assertion a) = none := by
  cases first <;> rfl

/-- Nothing is skipped before a brace. -/
lemma skip_brace (verbose text) : skip verbose ('\x7b' :: text) = '\x7b' :: text := by
  cases verbose <;> rfl

/-- An item goes with what is left. -/
lemma setItem_agrees (first : Primitive) {text text'} (h : Onward text text') :
    Agrees closing (do return (← first.setItem?, text)) (do return (← first.setItem?, text')) :=
  .guarded fun _ => .read h

/-- A range in front of the closing. -/
lemma rangeBehindDash_agrees (verbose first) {text text'} (h : Onward text text') :
    Agrees closing (rangeBehindDash verbose first text) (rangeBehindDash verbose first text') := by
  have mark (c) := peek_onward verbose h (c := c)
  rw [rangeBehindDash, rangeBehindDash]
  split
  · rename_i ends
    rw [(mark ']' (.inl rfl)).2 ends]
    exact setItem_agrees first (.cons '-' h)
  · rename_i ends
    rw [(mark '-' (.inr rfl)).2 ends]
    exact setItem_agrees first (.cons '-' h)
  · rename_i bracket dash
    split
    · rename_i ends
      exact (bracket ((mark ']' (.inl rfl)).1 ends)).elim
    · rename_i ends
      exact (dash ((mark '-' (.inr rfl)).1 ends)).elim
    · obtain agrees | ⟨fails, rest, stuck, -⟩ :=
        setPrimitive_agrees verbose (skip_onward verbose h)
      · refine (agrees.mono (List.suffix_cons _ _)).bind
          (fun last text text' h => .guarded fun item => .read h) fun last text => ?_
        exact .guarded fun item => .read List.suffix_rfl
      · have refused := rangeItem?_assertion first .wordBoundary
        rw [fails, stuck]
        show Agrees closing none (rangeItem? first (.assertion .wordBoundary) >>= _)
        rw [refused]
        exact .refused

/-- The rest of an item or a range in front of the closing, which it may leave as it is if it fails
on the pattern. -/
lemma rangeFrom_agrees (verbose first) {text text'} (h : Onward text text') :
    Agrees closing (rangeFrom verbose first text) (rangeFrom verbose first text') := by
  replace h := skip_onward verbose h
  rw [rangeFrom, rangeFrom]
  generalize skip verbose text = text, skip verbose text' = text' at h ⊢
  cases h with
  | closed => exact .of_leaves (.guarded fun item => .read List.suffix_rfl)
  | swallowed => exact .refused
  | @cons c text text' h =>
    by_cases dash : c = '-'
    · subst dash
      exact rangeBehindDash_agrees verbose first h
    · split
      · rename_i eq
        cases eq
      · rename_i eq
        exact absurd (List.cons.inj eq).1 dash
      · split
        · rename_i eq
          cases eq
        · rename_i eq
          exact absurd (List.cons.inj eq).1 dash
        · exact setItem_agrees first (.cons c h)

/-- An item or a range in front of the closing, which it may leave as it is if it fails on the
pattern. -/
lemma setRange_agrees (verbose) {text text'} (h : Onward text text') :
    Agrees closing (setRange verbose text) (setRange verbose text') := by
  rw [setRange_eq, setRange_eq]
  obtain agrees | ⟨fails, rest, stuck, -⟩ := setPrimitive_agrees verbose h
  · exact (agrees.mono (List.suffix_cons _ _)).bind
      (fun first text text' h => rangeFrom_agrees verbose first h)
      fun first text => leaves_rangeFrom verbose first text
  · have refused : rangeFrom verbose (.assertion .wordBoundary) ('\x7b' :: rest) = none := by
      rw [rangeFrom, skip_brace]
      rfl
    rw [fails, stuck]
    show Agrees closing none (rangeFrom verbose (.assertion .wordBoundary) ('\x7b' :: rest))
    rw [refused]
    exact .refused

/-- Two of the same character in a row are a sign of a class. -/
def isSign (c : Char) : Bool := c = '&' || c = '-' || c = '~'

/-- Any other text starts with an item or a range. -/
lemma setStep_cons {verbose frames items c text} (opening : c ≠ '[') (ending : c ≠ ']')
    (sign : ¬ (isSign c ∧ text.head? = some c)) :
    setStep verbose frames items (c :: text) =
      (setRange verbose (c :: text)).map fun (item, rest) =>
        (.reading frames (item :: items), rest) := by
  rw [setStep.eq_def]
  split
  · rename_i eq
    cases eq
  · rename_i eq
    exact absurd (List.cons.inj eq).1 opening
  · rename_i eq
    exact absurd (List.cons.inj eq).1 ending
  iterate 3
    · rename_i eq
      obtain ⟨rfl, rfl⟩ := List.cons.inj eq
      exact absurd ⟨rfl, rfl⟩ sign
  · rfl

/-- No sign is in the closing. -/
lemma head?_onward {text text'} (h : Onward text text') {c : Char} (sign : isSign c) :
    text'.head? = some c ↔ text.head? = some c := by
  cases h with
  | closed =>
    refine ⟨?_, nofun⟩
    rintro ⟨⟩
    cases sign
  | swallowed => rfl
  | cons d => rfl

/-- A step within a class in front of the closing. -/
lemma setStep_agrees (verbose frames items) {text text'} (h : Onward text text') :
    Agrees closing (setStep verbose frames items text) (setStep verbose frames items text') := by
  cases h with
  | closed =>
    exact .of_leaves ((leaves_setStep_cons verbose frames items ')' ['$']).trans (List.suffix_cons _ _))
  | swallowed => exact .refl _
  | @cons c text text' h =>
    by_cases opening : c = '['
    · subst opening
      obtain ⟨eq, eq'⟩ | ⟨item, rest, rest', eq, eq', onward⟩ := namedClass?_onward h
      · obtain ⟨state, rest, rest', read, read', onward⟩ := openBracket_onward verbose frames items h
        rw [setStep, setStep, eq, eq']
        dsimp only
        rw [read, read']
        exact .read onward
      · rw [setStep, setStep, eq, eq']
        exact .read onward
    by_cases ending : c = ']'
    · subst ending
      rw [setStep, setStep]
      cases closeBracket frames items with
      | none => exact .refused
      | some state => exact .read h
    by_cases sign : isSign c ∧ text.head? = some c
    · obtain ⟨isSign, double⟩ := sign
      obtain _ | _ | ⟨d, h⟩ := h
      · cases double
      · cases double
      · obtain rfl : d = c := Option.some.inj double
        simp only [Pattern.isSign, Bool.or_eq_true, decide_eq_true_eq] at isSign
        obtain (rfl | rfl) | rfl := isSign
        · exact .read h
        · exact .read h
        · exact .read h
    · have sign' : ¬ (isSign c ∧ text'.head? = some c) := by
        rintro ⟨isSign, double⟩
        exact sign ⟨isSign, (head?_onward h isSign).1 double⟩
      rw [setStep_cons opening ending sign, setStep_cons opening ending sign']
      exact (setRange_agrees verbose (.cons c h)).map (fun _ _ _ => rfl) fun _ _ => rfl

/-- Only a closing bracket closes a class. -/
lemma setStep_eq_closed {verbose frames items text negated inner rest}
    (step : setStep verbose frames items text = some (.closed negated inner, rest)) :
    text = ']' :: rest ∧ closeBracket frames items = some (.closed negated inner) := by
  rw [setStep.eq_def] at step
  split at step
  · cases step
  · split at step
    · cases step
    · cases step
  · obtain ⟨state, eq, same⟩ := Option.map_eq_some_iff.1 step
    obtain ⟨rfl, rfl⟩ := Prod.mk.inj same
    exact ⟨rfl, eq⟩
  · cases step
  · cases step
  · cases step
  · obtain ⟨⟨item, behind⟩, -, same⟩ := Option.map_eq_some_iff.1 step
    cases same

/-- A class is not closed without a closing bracket. -/
lemma readSet_eq_none {verbose fuel frames items text} (unclosed : ']' ∉ text) :
    readSet verbose fuel (.reading frames items) text = none := by
  induction fuel generalizing frames items text with
  | zero => rfl
  | succ fuel ih =>
    have part := skip_suffix verbose text
    rw [readSet]
    cases step : setStep verbose frames items (skip verbose text) with
    | none => rfl
    | some result =>
      obtain ⟨state, rest⟩ := result
      cases state with
      | closed negated inner =>
        rw [(setStep_eq_closed step).1] at part
        exact absurd (part.subset List.mem_cons_self) unclosed
      | reading frames' items' =>
        have left := (leaves_setStep verbose frames items _ _ _ step).trans part
        exact ih fun mem => unclosed (left.subset mem)

/-- A step within a class makes the text shorter. -/
lemma length_lt_of_setStep {verbose frames items text state rest}
    (step : setStep verbose frames items (skip verbose text) = some (state, rest)) :
    rest.length < text.length := by
  have part := (skip_suffix verbose text).length_le
  cases eq : skip verbose text with
  | nil =>
    rw [eq] at step
    cases step
  | cons c behind =>
    rw [eq] at step part
    have left := (leaves_setStep_cons verbose frames items c behind state rest step).length_le
    exact left.trans_lt part

/-- The rest of a class in front of the closing. -/
lemma readSet_onward {verbose state text text'} (h : Onward text text') {fuel fuel' : Nat}
    (enough : text.length < fuel) (enough' : text'.length < fuel') :
    (readSet verbose fuel state text = none ∧ readSet verbose fuel' state text' = none) ∨
      ∃ negated inner rest rest', readSet verbose fuel state text = some (negated, inner, rest) ∧
        readSet verbose fuel' state text' = some (negated, inner, rest') ∧ Onward rest rest' := by
  induction fuel generalizing fuel' state text text' with
  | zero => cases enough
  | succ fuel ih =>
    obtain ⟨fuel', rfl⟩ := Nat.exists_eq_add_of_lt enough'
    cases state with
    | closed negated inner => exact .inr ⟨negated, inner, text, text', rfl, rfl, h⟩
    | reading frames items =>
      have onward := skip_onward verbose h
      have agrees := setStep_agrees verbose frames items onward
      rw [readSet, readSet]
      cases step : setStep verbose frames items (skip verbose text) with
      | none =>
        cases step' : setStep verbose frames items (skip verbose text') with
        | none => exact .inl ⟨rfl, rfl⟩
        | some result =>
          obtain ⟨state, rest⟩ := result
          rw [step, step'] at agrees
          obtain _ | _ | inside := agrees
          cases state with
          | closed negated inner =>
            obtain ⟨eq, closes⟩ := setStep_eq_closed step'
            rw [eq] at onward
            generalize skip verbose text = left at onward step
            obtain _ | _ | ⟨_, onward⟩ := onward
            rw [setStep, closes] at step
            cases step
          | reading frames' items' =>
            refine .inl ⟨rfl, readSet_eq_none fun mem => ?_⟩
            have : ']' ∈ closing := inside.subset mem
            exact absurd this (by decide)
      | some result =>
        cases step' : setStep verbose frames items (skip verbose text') with
        | none =>
          rw [step, step'] at agrees
          cases agrees
        | some result' =>
          rw [step, step'] at agrees
          obtain _ | agreed := agrees
          have less := length_lt_of_setStep step
          have less' := length_lt_of_setStep step'
          exact ih agreed (by omega) (by omega)

/-- A class in front of the closing. -/
lemma bracketClass_onward (verbose) {text text'} (h : Onward text text') :
    (bracketClass verbose text = none ∧ bracketClass verbose text' = none) ∨
      ∃ negated inner rest rest', bracketClass verbose text = some (negated, inner, rest) ∧
        bracketClass verbose text' = some (negated, inner, rest') ∧ Onward rest rest' := by
  obtain ⟨state, rest, rest', eq, eq', onward⟩ := openBracket_onward verbose [] [] h
  have part := (openBracket_suffix verbose [] [] text).length_le
  have part' := (openBracket_suffix verbose [] [] text').length_le
  rw [eq] at part
  rw [eq'] at part'
  rw [bracketClass, bracketClass, eq, eq']
  exact readSet_onward onward (Nat.lt_succ_of_le part) (Nat.lt_succ_of_le part')

end DexTriage.Pattern
