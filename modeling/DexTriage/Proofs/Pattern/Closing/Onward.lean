import DexTriage.Proofs.Pattern.Remainder

/-!
# Patterns in front of the closing

A pattern is anchored by its text: `)$` stands behind it. A reader that has the closing before it
goes on as on the pattern alone, as long as the pattern lasts. At the end of the pattern there are
three ways in which it may differ. `Onward` relates what is left in two of them: the closing is next,
or a comment has swallowed it. `Agrees` relates what two readings give, and adds the third: where the
pattern alone ends too early, the closing may be taken for a part of it. Both go through the ways in
which readers are put together, so that a lemma for each reader is made of those for its parts.
-/

namespace DexTriage.Pattern

open DexTriage.Unicode

/-- What stands behind a pattern that is anchored. -/
def closing : List Char := [')', '$']

/-- What is left of a pattern on its own, and what is left of it in front of the closing: the closing
is still there, or has been swallowed by a comment at the end. -/
inductive Onward : List Char → List Char → Prop where
  | closed : Onward [] closing
  | swallowed : Onward [] []
  | cons (c) {text text'} :
    Onward text text' →
    Onward (c :: text) (c :: text')

/-- A reader gives the same on a pattern and in front of the closing, unless it fails on the pattern
and takes in some of the closing to give anything. What it then leaves is an end of `beyond`. -/
inductive Agrees {α : Type} (beyond : List Char) :
    Option (α × List Char) → Option (α × List Char) → Prop where
  | refused : Agrees beyond none none
  | read {a text text'} :
    Onward text text' →
    Agrees beyond (some (a, text)) (some (a, text'))
  | overrun {a text} :
    text <:+ beyond →
    Agrees beyond none (some (a, text))

namespace Onward

/-- Anything goes on with itself. -/
lemma refl (text) : Onward text text := by
  induction text with
  | nil => exact .swallowed
  | cons c text ih => exact .cons c ih

/-- The closing may stand behind anything. -/
lemma append (text) : Onward text (text ++ closing) := by
  induction text with
  | nil => exact .closed
  | cons c text ih => exact .cons c ih

/-- Leaving out characters up to one of another kind, if the closing starts with such a one or has
none. -/
lemma dropWhile {text text'} (h : Onward text text') {p : Char → Bool}
    (behind : Onward [] (closing.dropWhile p)) :
    Onward (text.dropWhile p) (text'.dropWhile p) := by
  induction h with
  | closed => exact behind
  | swallowed => exact .swallowed
  | @cons c _ _ h ih =>
    cases hp : p c with
    | true =>
      rw [List.dropWhile_cons_of_pos hp, List.dropWhile_cons_of_pos hp]
      exact ih
    | false =>
      rw [List.dropWhile_cons_of_neg (by simp [hp]), List.dropWhile_cons_of_neg (by simp [hp])]
      exact .cons c h

/-- What comes before a character of another kind is the same. -/
lemma takeWhile {text text'} (h : Onward text text') {p : Char → Bool}
    (found : text.dropWhile p ≠ []) : text'.takeWhile p = text.takeWhile p := by
  induction h with
  | closed => exact absurd rfl found
  | swallowed => rfl
  | @cons c _ _ _ ih =>
    cases hp : p c with
    | true =>
      rw [List.dropWhile_cons_of_pos hp] at found
      rw [List.takeWhile_cons_of_pos hp, List.takeWhile_cons_of_pos hp, ih found]
    | false =>
      rw [List.takeWhile_cons_of_neg (by simp [hp]), List.takeWhile_cons_of_neg (by simp [hp])]

end Onward

namespace Agrees

variable {α β : Type} {beyond : List Char}

/-- A reader agrees with itself. -/
lemma refl (x : Option (α × List Char)) : Agrees beyond x x := by
  cases x with
  | none => exact .refused
  | some result => exact .read (Onward.refl _)

/-- What fails on the pattern may leave an end of `beyond`. -/
lemma of_leaves {x : Option (α × List Char)} (leaves : Leaves beyond x) : Agrees beyond none x := by
  cases x with
  | none => exact .refused
  | some result => exact .overrun (leaves _ _ rfl)

/-- More may be left in front of the closing. -/
lemma mono {more} {x y : Option (α × List Char)} (agrees : Agrees beyond x y)
    (part : beyond <:+ more) : Agrees more x y := by
  cases agrees with
  | refused => exact .refused
  | read onward => exact .read onward
  | overrun inside => exact .overrun (inside.trans part)

/-- The same is made of what has been read. -/
lemma map {x y : Option (α × List Char)} {f : α × List Char → β × List Char}
    (agrees : Agrees beyond x y) (same : ∀ a text text', (f (a, text)).1 = (f (a, text')).1)
    (keeps : ∀ a text, (f (a, text)).2 = text) : Agrees beyond (x.map f) (y.map f) := by
  cases agrees with
  | refused => exact .refused
  | @read a text text' onward =>
    have eq (text) : f (a, text) = ((f (a, [])).1, text) := Prod.ext (same a text []) (keeps a text)
    rw [Option.map_some, Option.map_some, eq text, eq text']
    exact .read onward
  | @overrun a text inside =>
    exact .overrun ((keeps a text).symm ▸ inside)

/-- The same reader goes on. -/
lemma bind {x y : Option (α × List Char)} {f : α × List Char → Option (β × List Char)}
    (agrees : Agrees beyond x y)
    (next : ∀ a text text', Onward text text' → Agrees beyond (f (a, text)) (f (a, text')))
    (leaves : ∀ a text, Leaves text (f (a, text))) : Agrees beyond (x >>= f) (y >>= f) := by
  cases agrees with
  | refused => exact .refused
  | read onward => exact next _ _ _ onward
  | overrun inside => exact .of_leaves ((leaves _ _).trans inside)

/-- The same condition holds of what has been read. -/
lemma guarded {x : Option β} {f g : β → Option (α × List Char)}
    (next : ∀ b, Agrees beyond (f b) (g b)) : Agrees beyond (x >>= f) (x >>= g) := by
  cases x with
  | none => exact .refused
  | some b => exact next b

end Agrees

/-- Skipping leaves the closing where it is, or a comment swallows it. -/
lemma skipVerbose_onward (inComment) {text text'} (h : Onward text text') :
    Onward (skipVerbose inComment text) (skipVerbose inComment text') := by
  induction h generalizing inComment with
  | closed =>
    cases inComment with
    | false => exact .closed
    | true => exact .swallowed
  | swallowed => exact .refl _
  | cons c h ih =>
    cases inComment with
    | true => exact ih _
    | false =>
      rw [skipVerbose, skipVerbose]
      split_ifs
      · exact ih false
      · exact ih true
      · exact .cons c h

/-- What the mode skips leaves the closing where it is, or is a comment that swallows it. -/
lemma skip_onward (verbose) {text text'} (h : Onward text text') :
    Onward (skip verbose text) (skip verbose text') := by
  rw [skip, skip]
  split
  · exact skipVerbose_onward false h
  · exact h

end DexTriage.Pattern
