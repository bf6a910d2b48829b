import DexTriage.Proofs.Pattern.Closing.Bracket

/-!
# Steps in front of the closing

A step of reading a pattern in front of the closing: the start of a group, a repetition, or anything
else that the pattern is made of (`syntaxStep_agrees`). A pattern that breaks off within a step may
take in the parenthesis of the closing, but then nothing is left that could close a group.
-/

namespace DexTriage.Pattern

open DexTriage.Unicode

/-! ## Groups -/

/-- A name in front of the closing. -/
lemma groupName_agrees {text text'} (h : Onward text text') :
    Agrees ['$'] (groupName text) (groupName text') := by
  have dropped := h.dropWhile (p := fun c => decide (c ≠ '>')) .swallowed
  have taken := h.takeWhile (p := fun c => decide (c ≠ '>'))
  rw [groupName, groupName]
  generalize text.dropWhile _ = left, text'.dropWhile _ = left' at dropped taken ⊢
  cases dropped with
  | closed =>
    dsimp only
    split_ifs
    · exact .overrun List.suffix_rfl
    · exact .refused
  | swallowed => exact .refused
  | cons c onward =>
    rw [taken (List.cons_ne_nil _ _)]
    dsimp only
    split_ifs
    · exact .read onward
    · exact .refused

/-- Flags in front of the closing. -/
lemma flagChange_agrees (negated dangling done) {text text'} (h : Onward text text') :
    Agrees ['$']
      ((flagChange negated dangling done text).map fun (change, mark, rest) =>
        ((change, mark), rest))
      ((flagChange negated dangling done text').map fun (change, mark, rest) =>
        ((change, mark), rest)) := by
  induction h generalizing negated dangling done with
  | closed =>
    cases dangling with
    | false => exact .overrun List.suffix_rfl
    | true => exact .refused
  | swallowed => exact .refl _
  | cons c h ih =>
    rw [flagChange, flagChange]
    split_ifs
    · exact .refused
    · exact .read h
    · exact .refused
    · exact ih true true done
    · cases Flag.ofChar? c with
      | none => exact .refused
      | some flag =>
        dsimp only [Option.bind_eq_bind, Option.bind_some]
        split_ifs
        · exact .refused
        · exact ih negated false _

/-- The start of a group with flags, and what is left behind it. -/
def flagStart (text : List Char) : Option (GroupStart × List Char) := do
  let (change, mark, rest) ← flagChange false false [] text
  if mark = ':' then return (.group change, rest)
  else if change.isEmpty then none
  else return (.flags change, rest)

/-- The start of a group with flags, in front of the closing. -/
lemma flagStart_agrees {text text'} (h : Onward text text') :
    Agrees ['$'] (flagStart text) (flagStart text') := by
  have eq (text) : flagStart text =
      ((flagChange false false [] text).map fun (change, mark, rest) =>
        ((change, mark), rest)) >>= fun ((change, mark), rest) =>
          if mark = ':' then some (.group change, rest)
          else if change.isEmpty then none
          else some (.flags change, rest) := by
    rw [flagStart]
    cases flagChange false false [] text <;> rfl
  rw [eq, eq]
  refine (flagChange_agrees false false [] h).bind (fun (change, mark) text text' h => ?_)
    fun (change, mark) text => ?_
  · dsimp only
    split_ifs
    · exact .read h
    · exact .refused
    · exact .read h
  · dsimp only
    split_ifs
    · exact .read List.suffix_rfl
    · exact .refused
    · exact .read List.suffix_rfl

/-- Without a question mark a parenthesis starts a plain group. -/
lemma groupStart_plain {c text} (plain : c ≠ '?') :
    groupStart false (c :: text) = some (.group [], c :: text) := by
  rw [groupStart.eq_def]
  split
  all_goals first | rfl | (rename_i eq; exact absurd (List.cons.inj eq).1 plain)

/-- Behind a question mark that starts neither a condition nor a name there are flags. -/
lemma groupStart_flags {c text} (other : c ∉ ['=', '!', '<'])
    (unnamed : ¬ (c = 'P' ∧ text.head? = some '<')) :
    groupStart false ('?' :: c :: text) = flagStart (c :: text) := by
  rw [groupStart.eq_def]
  split
  iterate 4
    · rename_i eq
      obtain ⟨rfl, -⟩ := List.cons.inj (List.cons.inj eq).2
      exact absurd (by decide) other
  · rename_i eq
    obtain ⟨rfl, rfl⟩ := List.cons.inj (List.cons.inj eq).2
    exact absurd ⟨rfl, rfl⟩ unnamed
  · rename_i eq
    obtain ⟨rfl, -⟩ := List.cons.inj (List.cons.inj eq).2
    exact absurd (by decide) other
  · rename_i eq
    rw [← (List.cons.inj eq).2]
    rfl
  · rename_i plain
    exact (plain _ rfl).elim

/-- Behind an angle bracket that does not start a condition there is a name. -/
lemma groupStart_named {c text} (other : c ∉ ['=', '!']) :
    groupStart false ('?' :: '<' :: c :: text) =
      (groupName (c :: text)).map fun (name, rest) => (.named name, rest) := by
  rw [groupStart.eq_def]
  split
  all_goals try
    rename_i eq
    obtain ⟨same, -⟩ := List.cons.inj (List.cons.inj eq).2
    exact absurd same (by decide)
  iterate 2
    · rename_i eq
      obtain ⟨rfl, -⟩ := List.cons.inj (List.cons.inj (List.cons.inj eq).2).2
      exact absurd (by decide) other
  · rename_i eq
    rw [← (List.cons.inj (List.cons.inj eq).2).2]
  · rename_i named eq
    rw [← (List.cons.inj eq).2] at named
    exact (named _ rfl).elim
  · rename_i plain
    exact (plain _ rfl).elim

/-- A named group in front of the closing. -/
lemma named_agrees {text text'} (h : Onward text text') :
    Agrees ['$'] ((groupName text).map fun (name, rest) => (GroupStart.named name, rest))
      ((groupName text').map fun (name, rest) => (GroupStart.named name, rest)) :=
  (groupName_agrees h).map (fun _ _ _ => rfl) fun _ _ => rfl

/-- The start of a group in front of the closing. -/
lemma groupStart_agrees (verbose) {text text'} (h : Onward text text') :
    Agrees ['$'] (groupStart verbose text) (groupStart verbose text') := by
  replace h := skip_onward verbose h
  show Agrees ['$'] (groupStart false (skip verbose text)) (groupStart false (skip verbose text'))
  generalize skip verbose text = text, skip verbose text' = text' at h ⊢
  cases h with
  | closed => exact .read .closed
  | swallowed => exact .refl _
  | @cons c text text' h =>
    by_cases plain : c = '?'
    · subst plain
      cases h with
      | closed => exact .refused
      | swallowed => exact .refl _
      | @cons d text text' h =>
        by_cases angle : d = '<'
        · subst angle
          cases h with
          | closed => exact named_agrees .closed
          | swallowed => exact .refl _
          | @cons e text text' h =>
            by_cases look : e ∈ ['=', '!']
            · simp only [List.mem_cons, List.not_mem_nil, or_false] at look
              obtain rfl | rfl := look <;> exact .refused
            · rw [groupStart_named look, groupStart_named look]
              exact named_agrees (.cons e h)
        by_cases look : d ∈ ['=', '!']
        · simp only [List.mem_cons, List.not_mem_nil, or_false] at look
          obtain rfl | rfl := look <;> exact .refused
        by_cases named : d = 'P' ∧ text.head? = some '<'
        · obtain ⟨rfl, bracket⟩ := named
          obtain _ | _ | ⟨_, h⟩ := h
          · cases bracket
          · cases bracket
          · obtain rfl := Option.some.inj bracket
            exact named_agrees h
        · have other : d ∉ ['=', '!', '<'] := by
            simp only [List.mem_cons, List.not_mem_nil, or_false] at look ⊢
            tauto
          have named' : ¬ (d = 'P' ∧ text'.head? = some '<') := by
            rintro ⟨rfl, bracket⟩
            obtain _ | _ | ⟨_, h⟩ := h
            · cases bracket
            · cases bracket
            · exact named ⟨rfl, bracket⟩
          rw [groupStart_flags other named, groupStart_flags other named']
          exact flagStart_agrees (.cons d h)
    · rw [groupStart_plain plain, groupStart_plain plain]
      exact .read (.cons c h)

/-- The opening of a group in front of the closing. -/
lemma openGroup_agrees (state) {text text'} (h : Onward text text') :
    Agrees ['$'] (openGroup state text) (openGroup state text') := by
  rw [openGroup, openGroup]
  refine (groupStart_agrees state.verbose h).bind (fun start text text' h => ?_)
    fun start text => ?_
  · cases start with
    | flags change => exact .read h
    | group change => exact .read h
    | named name =>
      dsimp only
      split_ifs
      · exact .refused
      · exact .read h
  · cases start with
    | flags change => exact .read List.suffix_rfl
    | group change => exact .read List.suffix_rfl
    | named name =>
      dsimp only
      split_ifs
      · exact .refused
      · exact .read List.suffix_rfl

/-! ## Repetitions -/

/-- There is no question mark in the closing. -/
lemma dropLazy_onward {text text'} (h : Onward text text') :
    Onward (dropLazy text) (dropLazy text') := by
  cases h with
  | closed => exact .closed
  | swallowed => exact .swallowed
  | cons c h =>
    by_cases lazy : c = '?'
    · subst lazy
      exact h
    · have eager (text) : dropLazy (c :: text) = c :: text := by
        rw [dropLazy.eq_def]
        split
        · rename_i eq
          exact absurd (List.cons.inj eq).1 lazy
        · rfl
      rw [eager, eager]
      exact .cons c h

/-- There is no digit in the closing. -/
lemma spreadDigits_onward (verbose inComment) {text text'} (h : Onward text text') :
    ∃ digits rest rest', spreadDigits verbose inComment text = (digits, rest) ∧
      spreadDigits verbose inComment text' = (digits, rest') ∧ Onward rest rest' := by
  induction h generalizing inComment with
  | closed =>
    cases inComment with
    | false => cases verbose <;> exact ⟨[], _, _, rfl, rfl, .closed⟩
    | true => cases verbose <;> exact ⟨[], _, _, rfl, rfl, .swallowed⟩
  | swallowed => exact ⟨[], _, _, rfl, rfl, .swallowed⟩
  | cons c h ih =>
    cases inComment with
    | true => exact ih _
    | false =>
      rw [spreadDigits, spreadDigits]
      split_ifs
      · exact ih false
      · exact ih true
      · obtain ⟨digits, rest, rest', eq, eq', onward⟩ := ih false
        rw [eq, eq']
        exact ⟨c :: digits, rest, rest', rfl, rfl, onward⟩
      · exact ⟨[], _, _, rfl, rfl, .cons c h⟩

/-- A number in front of the closing. -/
lemma decimal_agrees (verbose) {text text'} (h : Onward text text') :
    Agrees ['$'] (decimal verbose text) (decimal verbose text') := by
  have blanks {text text'} (h : Onward text text') :
      Onward (text.dropWhile isBlank) (text'.dropWhile isBlank) := h.dropWhile .closed
  obtain ⟨digits, rest, rest', eq, eq', onward⟩ := spreadDigits_onward verbose false (blanks h)
  rw [decimal, decimal, eq, eq']
  dsimp only
  split_ifs
  · exact .refused
  · exact .read (blanks onward)

/-- The end of bounds in front of the closing. -/
lemma boundsEnd_agrees (least most) {text text'} (h : Onward text text') :
    Agrees ['$'] (boundsEnd least most text) (boundsEnd least most text') := by
  cases h with
  | closed => exact .refused
  | swallowed => exact .refused
  | cons c h =>
    by_cases brace : c = '\x7d'
    · subst brace
      dsimp only [boundsEnd]
      split_ifs
      · exact .read h
      · exact .refused
    · have other (text) : boundsEnd least most (c :: text) = none := by
        rw [boundsEnd.eq_def]
        split
        · rename_i eq
          exact absurd (List.cons.inj eq).1 brace
        · rfl
      rw [other, other]
      exact .refused

/-- Bounds from behind the comma in front of the closing. -/
lemma boundsBehindComma_agrees (verbose least) {text text'} (h : Onward text text') :
    Agrees ['$'] (boundsBehindComma verbose least text)
      (boundsBehindComma verbose least text') := by
  have bounded {text text'} (h : Onward text text') :
      Agrees ['$']
        (decimal verbose text >>= fun found => boundsEnd least found.1 found.2)
        (decimal verbose text' >>= fun found => boundsEnd least found.1 found.2) :=
    (decimal_agrees verbose h).bind (fun most text text' h => boundsEnd_agrees least most h)
      fun most text => leaves_boundsEnd least most text
  replace h := skip_onward verbose h
  rw [boundsBehindComma, boundsBehindComma]
  generalize skip verbose text = text, skip verbose text' = text' at h ⊢
  cases h with
  | closed => exact bounded .closed
  | swallowed => exact .refl _
  | cons c h =>
    by_cases brace : c = '\x7d'
    · subst brace
      exact .read h
    · split
      · rename_i eq
        exact absurd (List.cons.inj eq).1 brace
      · split
        · rename_i eq
          exact absurd (List.cons.inj eq).1 brace
        · exact bounded (.cons c h)

/-- Bounds from behind the first number in front of the closing. -/
lemma boundsFrom_agrees (verbose least) {text text'} (h : Onward text text') :
    Agrees ['$'] (boundsFrom verbose least text) (boundsFrom verbose least text') := by
  cases h with
  | closed => exact .refused
  | swallowed => exact .refused
  | cons c h =>
    by_cases brace : c = '\x7d'
    · subst brace
      exact .read h
    by_cases comma : c = ','
    · subst comma
      exact boundsBehindComma_agrees verbose least h
    · have other (text) : boundsFrom verbose least (c :: text) = none := by
        rw [boundsFrom.eq_def]
        split
        · rename_i eq
          exact absurd (List.cons.inj eq).1 brace
        · rename_i eq
          exact absurd (List.cons.inj eq).1 comma
        · rfl
      rw [other, other]
      exact .refused

/-- The bounds of a repetition in front of the closing. -/
lemma bounds_agrees (verbose) {text text'} (h : Onward text text') :
    Agrees ['$'] (bounds verbose text) (bounds verbose text') := by
  rw [bounds_eq, bounds_eq]
  exact (decimal_agrees verbose (skip_onward verbose h)).bind
    (fun least text text' h => boundsFrom_agrees verbose least h)
    fun least text => leaves_boundsFrom verbose least text

/-- Behind most characters nothing more is taken in. -/
lemma syntaxStep_of_not_mem (state) {c : Char}
    (short : c ∉ ['(', '[', '?', '*', '+', '\x7b', '\\']) :
    ∃ x : Option SyntaxState, ∀ text, syntaxStep state c text = x.map (·, text) := by
  refine ⟨(syntaxStep state c []).map Prod.fst, fun text => ?_⟩
  rw [syntaxStep.eq_def, syntaxStep.eq_def]
  split
  all_goals try contradiction
  · cases closeGroup state <;> rfl
  all_goals rfl

/-- A step fails on the pattern, and leaves a brace in front of the closing that the next step
fails on. -/
def StepIsStuck (state : SyntaxState) (c : Char) (text text' : List Char) : Prop :=
  syntaxStep state c text = none ∧
    ∃ state' rest, syntaxStep state c text' = some (state', '\x7b' :: rest) ∧
      bounds state'.verbose rest = none

/-- A step in front of the closing. -/
lemma syntaxStep_agrees (state) (c) {text text'} (h : Onward text text') :
    Agrees ['$'] (syntaxStep state c text) (syntaxStep state c text') ∨
      StepIsStuck state c text text' := by
  by_cases long : c ∈ ['(', '[', '?', '*', '+', '\x7b', '\\']
  · have lazy (x : Option SyntaxState) :
        Agrees ['$'] (x.map (·, dropLazy text)) (x.map (·, dropLazy text')) := by
      cases x with
      | none => exact .refused
      | some s => exact .read (dropLazy_onward h)
    simp only [List.mem_cons, List.not_mem_nil, or_false] at long
    obtain rfl | rfl | rfl | rfl | rfl | rfl | rfl := long
    · exact .inl (openGroup_agrees state h)
    · left
      rw [syntaxStep, syntaxStep]
      obtain ⟨eq, eq'⟩ | ⟨negated, inner, rest, rest', eq, eq', onward⟩ :=
        bracketClass_onward state.verbose h
      · rw [eq, eq']
        exact .refused
      · rw [eq, eq']
        exact .read onward
    · exact .inl (lazy _)
    · exact .inl (lazy _)
    · exact .inl (lazy _)
    · left
      refine (bounds_agrees state.verbose h).bind
        (fun range text text' h => .guarded fun s => .read ?_)
        fun range text => .guarded fun s => .read ?_
      · exact dropLazy_onward (skip_onward state.verbose h)
      · exact (dropLazy_suffix _).trans (skip_suffix state.verbose text)
    · obtain agrees | ⟨fails, rest, stuck, refused⟩ := escape_agrees state.verbose h
      · exact .inl (agrees.bind (fun primitive text text' h => .read h)
          fun primitive text => .read List.suffix_rfl)
      · right
        refine ⟨?_, state.push (.primitive (.assertion .wordBoundary)), rest, ?_, refused⟩
        · rw [syntaxStep, fails]
          rfl
        · rw [syntaxStep, stuck]
          rfl
  · obtain ⟨x, eq⟩ := syntaxStep_of_not_mem state long
    rw [eq, eq]
    cases x with
    | none => exact .inl .refused
    | some s => exact .inl (.read h)

end DexTriage.Pattern
