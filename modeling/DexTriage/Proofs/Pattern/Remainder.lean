import Mathlib
import DexTriage.Pattern.Syntax

/-!
# What readers leave

A reader of patterns takes in the start of a text and leaves the end of it as it is. `Leaves` says so
of one result, and goes through the ways in which readers are put together. A step within a class or
at the level of a pattern takes in at least the character that it looks at first.
-/

namespace DexTriage.Pattern

open DexTriage.Unicode

/-- What is left behind a result is an end of the text. -/
def Leaves {α : Type} (text : List Char) (result : Option (α × List Char)) : Prop :=
  ∀ a rest, result = some (a, rest) → rest <:+ text

namespace Leaves

variable {α β : Type} {text more : List Char}

/-- A refusal leaves nothing. -/
lemma refused : Leaves (α := α) text none := nofun

/-- An end of the text may be left. -/
lemma read {a : α} {rest} (part : rest <:+ text) : Leaves text (some (a, rest)) := by
  rintro _ _ ⟨⟩
  exact part

/-- An end of an end is one. -/
lemma trans {x : Option (α × List Char)} (leaves : Leaves text x) (part : text <:+ more) :
    Leaves more x := by
  intro a rest eq
  exact (leaves a rest eq).trans part

/-- What is made of a result leaves what the result does. -/
lemma map {x : Option (α × List Char)} {f : α × List Char → β × List Char}
    (leaves : Leaves text x) (same : ∀ a rest, (f (a, rest)).2 = rest) : Leaves text (x.map f) := by
  cases x with
  | none => exact refused
  | some result => exact read ((same _ _).symm ▸ leaves result.1 result.2 rfl)

/-- One reader goes on with what the other leaves. -/
lemma bind {x : Option (α × List Char)} {f : α × List Char → Option (β × List Char)}
    (leaves : Leaves text x) (next : ∀ a rest, Leaves rest (f (a, rest))) :
    Leaves text (x >>= f) := by
  cases x with
  | none => exact refused
  | some result => exact (next result.1 result.2).trans (leaves result.1 result.2 rfl)

/-- A condition on what has been read takes in nothing. -/
lemma guarded {x : Option β} {f : β → Option (α × List Char)} (next : ∀ b, Leaves text (f b)) :
    Leaves text (x >>= f) := by
  cases x with
  | none => exact refused
  | some b => exact next b

end Leaves

/-! ## Escapes -/

/-- Skipping leaves an end of the text. -/
lemma skipVerbose_suffix (inComment text) : skipVerbose inComment text <:+ text := by
  fun_induction skipVerbose inComment text with
  | case1 => exact List.suffix_rfl
  | case2 c text ih => exact ih.trans (List.suffix_cons c text)
  | case3 c text _ ih => exact ih.trans (List.suffix_cons c text)
  | case4 text _ ih => exact ih.trans (List.suffix_cons _ text)
  | case5 => exact List.suffix_rfl

/-- Skipping leaves an end of the text. -/
lemma skip_suffix (verbose text) : skip verbose text <:+ text := by
  rw [skip]
  split
  · exact skipVerbose_suffix false text
  · exact List.suffix_rfl

/-- Characters are taken from the start. -/
lemma leaves_significant (verbose inComment count text) :
    Leaves text (significant verbose inComment count text) := by
  fun_induction significant verbose inComment count text with
  | case1 => exact .read List.suffix_rfl
  | case2 => exact .refused
  | case3 count c text _ ih => exact ih.trans (List.suffix_cons c text)
  | case4 count c text _ ih => exact ih.trans (List.suffix_cons c text)
  | case5 count c text _ _ ih => exact ih.trans (List.suffix_cons c text)
  | case6 count c text _ _ ih => exact (ih.trans (List.suffix_cons c text)).map fun _ _ => rfl

/-- At least one character is taken in. -/
lemma leaves_significant_succ (verbose inComment count c text) :
    Leaves text (significant verbose inComment (count + 1) (c :: text)) := by
  cases inComment with
  | true => exact leaves_significant verbose _ _ text
  | false =>
    rw [significant]
    split_ifs
    · exact leaves_significant verbose _ _ text
    · exact leaves_significant verbose _ _ text
    · exact (leaves_significant verbose _ _ text).map fun _ _ => rfl

/-- Characters up to a brace are taken from the start. -/
lemma leaves_braced (verbose inComment text) : Leaves text (braced verbose inComment text) := by
  fun_induction braced verbose inComment text with
  | case1 => exact .refused
  | case2 c text ih => exact ih.trans (List.suffix_cons c text)
  | case3 c text _ ih => exact ih.trans (List.suffix_cons c text)
  | case4 c text _ _ ih => exact ih.trans (List.suffix_cons c text)
  | case5 text => exact .read (List.suffix_cons _ text)
  | case6 c text _ _ _ ih => exact (ih.trans (List.suffix_cons c text)).map fun _ _ => rfl

/-- A character in hexadecimal digits is taken from the start. -/
lemma leaves_hexEscape (verbose count text) : Leaves text (hexEscape verbose count text) := by
  have part := skip_suffix verbose text
  rw [hexEscape]
  split
  · rename_i inner eq
    rw [eq] at part
    refine Leaves.trans ?_ ((List.suffix_cons _ inner).trans part)
    exact (leaves_braced verbose false inner).bind fun digits rest => .guarded fun c =>
      .read List.suffix_rfl
  · refine Leaves.trans ?_ part
    exact (leaves_significant verbose false count _).bind fun digits rest => .guarded fun c =>
      .read List.suffix_rfl

/-- A property is taken from the start. -/
lemma leaves_propertyEscape (verbose negated text) :
    Leaves text (propertyEscape verbose negated text) := by
  have part := skip_suffix verbose text
  rw [propertyEscape]
  split
  · exact .refused
  · rename_i inner eq
    rw [eq] at part
    refine Leaves.trans ?_ ((List.suffix_cons _ inner).trans part)
    exact (leaves_braced verbose false inner).bind fun name rest => .read List.suffix_rfl
  · exact .refused
  · rename_i c inner _ _ eq
    rw [eq] at part
    exact .read ((List.suffix_cons c inner).trans part)

/-- A word boundary is taken from the start. -/
lemma leaves_boundaryEscape (verbose text) : Leaves text (boundaryEscape verbose text) := by
  rw [boundaryEscape.eq_def]
  split
  · rename_i inner
    split
    · exact .refused
    · split
      · refine Leaves.trans ?_ (List.suffix_cons _ inner)
        exact (leaves_braced verbose false inner).bind fun name rest => .guarded fun a =>
          .read List.suffix_rfl
      · exact .read List.suffix_rfl
  · exact .read List.suffix_rfl

/-- An escape takes in at least the character behind the backslash. -/
lemma leaves_escape_cons (verbose c text) : Leaves text (escape verbose (c :: text)) := by
  rw [escape.eq_def]
  dsimp only
  split
  · exact .read List.suffix_rfl
  · split
    all_goals first
      | exact .read List.suffix_rfl
      | exact .refused
      | exact leaves_hexEscape verbose _ text
      | exact leaves_propertyEscape verbose _ text
      | exact leaves_boundaryEscape verbose text

/-! ## Classes in brackets -/

/-- A named class is taken from the start. -/
lemma leaves_namedClass? (text) : Leaves text (namedClass? text) := by
  fun_cases namedClass? text with
  | case1 inner negated body sign rest eq =>
    have part : body <:+ inner := by
      split at sign
      · obtain ⟨-, rfl⟩ := Prod.mk.inj sign
        exact List.suffix_cons _ _
      · obtain ⟨-, rfl⟩ := Prod.mk.inj sign
        exact List.suffix_rfl
    have behind : ':' :: ']' :: rest <:+ body := eq ▸ List.dropWhile_suffix _
    refine .guarded fun ranges => .read ?_
    calc
      rest <:+ ']' :: rest := List.suffix_cons _ _
      _ <:+ ':' :: ']' :: rest := List.suffix_cons _ _
      _ <:+ body := behind
      _ <:+ inner := part
      _ <:+ ':' :: inner := List.suffix_cons _ _
  | case2 => exact .refused
  | case3 => exact .refused

/-- Dashes are taken from the start. -/
lemma leadingDashes_suffix (verbose inComment text) :
    (leadingDashes verbose inComment text).2 <:+ text := by
  fun_induction leadingDashes verbose inComment text with
  | case1 => exact List.suffix_rfl
  | case2 c text ih => exact ih.trans (List.suffix_cons c text)
  | case3 c text _ ih => exact ih.trans (List.suffix_cons c text)
  | case4 c text _ _ ih => exact ih.trans (List.suffix_cons c text)
  | case5 text count rest read _ _ ih =>
    rw [read] at ih
    exact ih.trans (List.suffix_cons _ text)
  | case6 => exact List.suffix_rfl

/-- A sign of negation is taken from the start. -/
lemma readNegation_suffix (verbose text) : (readNegation verbose text).2 <:+ text := by
  have part := skip_suffix verbose text
  rw [readNegation]
  split
  · rename_i inner eq
    rw [eq] at part
    exact (List.suffix_cons _ inner).trans part
  · exact part

/-- The characters that stand for themselves are taken from the start. -/
lemma readLeading_suffix (verbose text) : (readLeading verbose text).2 <:+ text := by
  have part := leadingDashes_suffix verbose false text
  rw [readLeading]
  split
  · rename_i inner eq
    rw [eq] at part
    exact (List.suffix_cons _ inner).trans part
  · rename_i count rest _ eq
    rw [eq] at part
    exact part

/-- The start of a class is taken from the start. -/
lemma openBracket_suffix (verbose frames items text) :
    (openBracket verbose frames items text).2 <:+ text :=
  (readLeading_suffix verbose _).trans (readNegation_suffix verbose text)

/-- A primitive takes in at least one character. -/
lemma leaves_setPrimitive_cons (verbose c text) : Leaves text (setPrimitive verbose (c :: text)) := by
  rw [setPrimitive.eq_def]
  split
  · exact .refused
  · rename_i eq
    obtain ⟨rfl, rfl⟩ := List.cons.inj eq
    cases text with
    | nil => exact .refused
    | cons d text => exact (leaves_escape_cons verbose d text).trans (List.suffix_cons d text)
  · rename_i eq
    obtain ⟨rfl, rfl⟩ := List.cons.inj eq
    exact .read List.suffix_rfl

/-- A primitive is taken from the start. -/
lemma leaves_setPrimitive (verbose text) : Leaves text (setPrimitive verbose text) := by
  cases text with
  | nil => exact .refused
  | cons c text => exact (leaves_setPrimitive_cons verbose c text).trans (List.suffix_cons c text)

/-- The range from a primitive, of which a dash has been read, unless the dash stands for itself. -/
def rangeBehindDash (verbose : Bool) (first : Primitive) (behind : List Char) :
    Option (SetItem × List Char) :=
  match peek verbose behind with
  | some ']' | some '-' => do return (← first.setItem?, '-' :: behind)
  | _ => do
    let (last, text) ← setPrimitive verbose (skip verbose behind)
    return (← rangeItem? first last, text)

/-- The item or the range that starts with a primitive, and what is left behind it. -/
def rangeFrom (verbose : Bool) (first : Primitive) (text : List Char) :
    Option (SetItem × List Char) :=
  match skip verbose text with
  | [] => none
  | '-' :: behind => rangeBehindDash verbose first behind
  | text => do return (← first.setItem?, text)

/-- An item or a range starts with a primitive. -/
lemma setRange_eq (verbose text) : setRange verbose text =
    setPrimitive verbose text >>= fun (first, text) => rangeFrom verbose first text := rfl

/-- A range leaves the dash or an end of what is behind it. -/
lemma leaves_rangeBehindDash (verbose first behind) :
    Leaves ('-' :: behind) (rangeBehindDash verbose first behind) := by
  rw [rangeBehindDash]
  split
  · exact .guarded fun item => .read List.suffix_rfl
  · exact .guarded fun item => .read List.suffix_rfl
  · refine Leaves.trans ?_ ((skip_suffix verbose behind).trans (List.suffix_cons _ behind))
    exact (leaves_setPrimitive verbose _).bind fun last rest => .guarded fun item =>
      .read List.suffix_rfl

/-- The rest of an item or a range is taken from the start. -/
lemma leaves_rangeFrom (verbose first text) : Leaves text (rangeFrom verbose first text) := by
  have part := skip_suffix verbose text
  rw [rangeFrom]
  split
  · exact .refused
  · rename_i behind eq
    rw [eq] at part
    exact (leaves_rangeBehindDash verbose first behind).trans part
  · exact .guarded fun item => .read part

/-- An item or a range takes in at least one character. -/
lemma leaves_setRange_cons (verbose c text) : Leaves text (setRange verbose (c :: text)) :=
  (leaves_setPrimitive_cons verbose c text).bind fun first rest => leaves_rangeFrom verbose first rest

/-- A step within a class takes in at least one character. -/
lemma leaves_setStep_cons (verbose frames items c text) :
    Leaves text (setStep verbose frames items (c :: text)) := by
  rw [setStep.eq_def]
  split
  · exact .refused
  · rename_i eq
    obtain ⟨rfl, rfl⟩ := List.cons.inj eq
    split
    · rename_i named
      exact .read (leaves_namedClass? text _ _ named)
    · rintro _ _ ⟨⟩
      exact openBracket_suffix verbose frames items text
  · rename_i eq
    obtain ⟨rfl, rfl⟩ := List.cons.inj eq
    rintro state rest read
    obtain ⟨_, _, ⟨⟩⟩ := Option.map_eq_some_iff.1 read
    exact List.suffix_rfl
  iterate 3
    · rename_i eq
      obtain ⟨rfl, rfl⟩ := List.cons.inj eq
      exact .read (List.suffix_cons _ _)
  · exact (leaves_setRange_cons verbose c text).map fun _ _ => rfl

/-- A step within a class is taken from the start. -/
lemma leaves_setStep (verbose frames items text) :
    Leaves text (setStep verbose frames items text) := by
  cases text with
  | nil => exact .refused
  | cons c text => exact (leaves_setStep_cons verbose frames items c text).trans (List.suffix_cons c text)

/-- The rest of a class is taken from the start. -/
lemma readSet_suffix {verbose fuel state text negated inner rest}
    (read : readSet verbose fuel state text = some (negated, inner, rest)) : rest <:+ text := by
  induction fuel generalizing state text with
  | zero =>
    cases state with
    | reading frames items => cases read
    | closed negated inner =>
      cases read
      exact List.suffix_rfl
  | succ fuel ih =>
    cases state with
    | reading frames items =>
      obtain ⟨⟨state, behind⟩, step, later⟩ := Option.bind_eq_some_iff.1 read
      calc
        rest <:+ behind := ih later
        _ <:+ skip verbose text := leaves_setStep verbose frames items _ _ _ step
        _ <:+ text := skip_suffix verbose text
    | closed negated inner =>
      cases read
      exact List.suffix_rfl

/-- A class is taken from the start. -/
lemma bracketClass_suffix {verbose text negated inner rest}
    (read : bracketClass verbose text = some (negated, inner, rest)) : rest <:+ text :=
  (readSet_suffix read).trans (openBracket_suffix verbose [] [] text)

/-! ## Groups and repetitions -/

/-- A name is taken from the start. -/
lemma leaves_groupName (text) : Leaves text (groupName text) := by
  have part := List.dropWhile_suffix (l := text) (· ≠ '>')
  rw [groupName]
  split
  · exact .refused
  · rename_i rest eq
    rw [eq] at part
    split
    · exact .read ((List.suffix_cons _ rest).trans part)
    · exact .refused

/-- Flags are taken from the start. -/
lemma flagChange_suffix {negated dangling done text change mark rest}
    (read : flagChange negated dangling done text = some (change, mark, rest)) :
    rest <:+ text := by
  induction text generalizing negated dangling done with
  | nil => cases read
  | cons c text ih =>
    refine List.IsSuffix.trans ?_ (List.suffix_cons c text)
    rw [flagChange] at read
    split at read
    · split at read
      · cases read
      · cases read
        exact List.suffix_rfl
    · split at read
      · split at read
        · cases read
        · exact ih read
      · obtain ⟨flag, -, read⟩ := Option.bind_eq_some_iff.1 read
        split at read
        · cases read
        · exact ih read

/-- The start of a group is taken from the start. -/
lemma leaves_groupStart (verbose text) : Leaves text (groupStart verbose text) := by
  have part := skip_suffix verbose text
  fun_cases groupStart verbose text with
  | case5 inner eq =>
    rw [eq] at part
    refine Leaves.trans ?_ ((List.suffix_append ['?', 'P', '<'] inner).trans part)
    exact (leaves_groupName inner).map fun _ _ => rfl
  | case6 inner _ _ eq =>
    rw [eq] at part
    refine Leaves.trans ?_ ((List.suffix_append ['?', '<'] inner).trans part)
    exact (leaves_groupName inner).map fun _ _ => rfl
  | case7 inner _ _ _ _ _ _ eq =>
    rw [eq] at part
    intro start rest read
    obtain ⟨⟨change, mark, behind⟩, flags, read⟩ := Option.bind_eq_some_iff.1 read
    have inside := ((flagChange_suffix flags).trans (List.suffix_cons _ inner)).trans part
    dsimp only at read
    split at read
    · cases read
      exact inside
    · split at read
      · cases read
      · cases read
        exact inside
  | case8 => exact .read part
  | _ => exact .refused

/-- The opening of a group is taken from the start. -/
lemma leaves_openGroup (state text) : Leaves text (openGroup state text) := by
  refine (leaves_groupStart state.verbose text).bind fun start rest => ?_
  dsimp only
  split
  · exact .read List.suffix_rfl
  · exact .read List.suffix_rfl
  · split
    · exact .refused
    · exact .read List.suffix_rfl

/-- A question mark is taken from the start. -/
lemma dropLazy_suffix (text) : dropLazy text <:+ text := by
  fun_cases dropLazy text with
  | case1 text => exact List.suffix_cons _ text
  | case2 => exact List.suffix_rfl

/-- Digits are taken from the start. -/
lemma spreadDigits_suffix (verbose inComment text) :
    (spreadDigits verbose inComment text).2 <:+ text := by
  fun_induction spreadDigits verbose inComment text with
  | case1 => exact List.suffix_rfl
  | case2 c text ih => exact ih.trans (List.suffix_cons c text)
  | case3 c text _ ih => exact ih.trans (List.suffix_cons c text)
  | case4 c text _ _ ih => exact ih.trans (List.suffix_cons c text)
  | case5 c text _ _ _ digits rest read ih =>
    rw [read] at ih
    exact ih.trans (List.suffix_cons c text)
  | case6 => exact List.suffix_rfl

/-- A number is taken from the start. -/
lemma leaves_decimal (verbose text) : Leaves text (decimal verbose text) := by
  have part := spreadDigits_suffix verbose false (text.dropWhile isBlank)
  fun_cases decimal verbose text with
  | case1 => exact .refused
  | case2 digits rest eq =>
    rw [eq] at part
    exact .read ((List.dropWhile_suffix _).trans (part.trans (List.dropWhile_suffix _)))

/-- The end of the bounds of a repetition, if they are in order. -/
def boundsEnd (least most : Nat) : List Char → Option ((Nat × Option Nat) × List Char)
  | '\x7d' :: rest => if least ≤ most then some ((least, some most), rest) else none
  | _ => none

/-- The bounds of a repetition from behind the comma. -/
def boundsBehindComma (verbose : Bool) (least : Nat) (text : List Char) :
    Option ((Nat × Option Nat) × List Char) :=
  match skip verbose text with
  | '\x7d' :: rest => some ((least, none), rest)
  | text => do
    let (most, text) ← decimal verbose text
    boundsEnd least most text

/-- The bounds of a repetition from behind the first number. -/
def boundsFrom (verbose : Bool) (least : Nat) :
    List Char → Option ((Nat × Option Nat) × List Char)
  | '\x7d' :: rest => some ((least, some least), rest)
  | ',' :: text => boundsBehindComma verbose least text
  | _ => none

/-- The bounds of a repetition start with a number. -/
lemma bounds_eq (verbose text) : bounds verbose text =
    decimal verbose (skip verbose text) >>= fun (least, text) => boundsFrom verbose least text := by
  rw [bounds]
  rfl

/-- The end of the bounds is taken from the start. -/
lemma leaves_boundsEnd (least most text) : Leaves text (boundsEnd least most text) := by
  fun_cases boundsEnd least most text with
  | case1 rest => exact .read (List.suffix_cons _ rest)
  | case2 => exact .refused
  | case3 => exact .refused

/-- The bounds from behind the comma are taken from the start. -/
lemma leaves_boundsBehindComma (verbose least text) :
    Leaves text (boundsBehindComma verbose least text) := by
  have part := skip_suffix verbose text
  rw [boundsBehindComma]
  split
  · rename_i rest eq
    rw [eq] at part
    exact .read ((List.suffix_cons _ rest).trans part)
  · refine Leaves.trans ?_ part
    exact (leaves_decimal verbose _).bind fun most rest => leaves_boundsEnd least most rest

/-- The bounds from behind the first number are taken from the start. -/
lemma leaves_boundsFrom (verbose least text) : Leaves text (boundsFrom verbose least text) := by
  fun_cases boundsFrom verbose least text with
  | case1 rest => exact .read (List.suffix_cons _ rest)
  | case2 text => exact (leaves_boundsBehindComma verbose least text).trans (List.suffix_cons _ text)
  | case3 => exact .refused

/-- The bounds of a repetition are taken from the start. -/
lemma leaves_bounds (verbose text) : Leaves text (bounds verbose text) := by
  rw [bounds_eq]
  exact ((leaves_decimal verbose _).bind fun least rest => leaves_boundsFrom verbose least rest).trans
    (skip_suffix verbose text)

/-- A step takes in at least the character that it looks at. -/
lemma leaves_syntaxStep (state c text) : Leaves text (syntaxStep state c text) := by
  have lazy (x : Option SyntaxState) (rest) (part : rest <:+ text) :
      Leaves text (x.map (·, dropLazy rest)) := by
    cases x with
    | none => exact .refused
    | some s => exact .read ((dropLazy_suffix rest).trans part)
  fun_cases syntaxStep state c text with
  | case1 => exact leaves_openGroup state text
  | case2 =>
    cases closeGroup state with
    | none => exact .refused
    | some s => exact .read List.suffix_rfl
  | case4 =>
    intro s rest read
    obtain ⟨⟨negated, inner, behind⟩, bracket, read⟩ := Option.bind_eq_some_iff.1 read
    cases read
    exact bracketClass_suffix bracket
  | case5 => exact lazy _ text List.suffix_rfl
  | case6 => exact lazy _ text List.suffix_rfl
  | case7 => exact lazy _ text List.suffix_rfl
  | case8 =>
    refine (leaves_bounds state.verbose text).bind fun range rest => .guarded fun s => .read ?_
    exact (dropLazy_suffix _).trans (skip_suffix state.verbose rest)
  | case9 =>
    cases text with
    | nil => exact .refused
    | cons d text =>
      refine Leaves.trans ?_ (List.suffix_cons d text)
      exact (leaves_escape_cons state.verbose d text).bind fun primitive rest => .read List.suffix_rfl
  | _ => exact .read List.suffix_rfl

end DexTriage.Pattern
