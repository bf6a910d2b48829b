import Mathlib
import DexTriage.Pattern.Regex

/-!
# What an expression matches

`Regex.Matches` says when an expression matches from one position of a text to another, with no
regard to how matches are found. `Regex.run_follows` shows that `Regex.run` finds exactly these
matches: from a set of positions it comes to every position to which there is a match from one of
them. A repetition is a chain of matches of its body, and what bounds the search for chains is that
matches never go back, so that a chain needs no more steps than there are characters
(`Chain.shorten`).
-/

namespace DexTriage.Pattern

/-- A number of steps, one after the other. -/
inductive Chain (step : Nat → Nat → Prop) : (count : Nat) → Nat → Nat → Prop where
  | nil {i} :
    Chain step 0 i i
  | cons {count i j k} :
    step i j →
    Chain step count j k →
    Chain step (count + 1) i k

/-- The expression matches the characters between two positions of a text. A repetition takes at
least `least` matches in a row and at most as many as `most` says, if that is not fewer. -/
def Regex.Matches (text : Array Char) : Regex → Nat → Nat → Prop
  | empty, i, j => j = i
  | set s, i, j => (∃ c, text[i]? = some c ∧ s.contains c.toNat) ∧ j = i + 1
  | look l, i, j => l.holdsAt text i ∧ j = i
  | seq a b, i, k => ∃ j, a.Matches text i j ∧ b.Matches text j k
  | alt a b, i, j => a.Matches text i j ∨ b.Matches text i j
  | repeated a least most, i, j =>
    ∃ count, least ≤ count ∧ (∀ limit, most = some limit → count ≤ max least limit) ∧
      Chain (a.Matches text) count i j

/-- The expression matches a text from its first to its last character. -/
def Regex.MatchesWhole (regex : Regex) (text : String) : Prop :=
  regex.Matches text.toList.toArray 0 text.toList.length

namespace Chain

variable {step : Nat → Nat → Prop}

/-- A chain goes on with another one from where it ends. -/
lemma append {m n i j k} (first : Chain step m i j) (second : Chain step n j k) :
    Chain step (m + n) i k := by
  induction first with
  | nil => rwa [Nat.zero_add]
  | @cons count _ _ _ st _ ih =>
    rw [Nat.add_right_comm]
    exact .cons st (ih second)

/-- A chain may be cut anywhere. -/
lemma split {m n i k} (chain : Chain step (m + n) i k) :
    ∃ j, Chain step m i j ∧ Chain step n j k := by
  induction m generalizing i with
  | zero =>
    rw [Nat.zero_add] at chain
    exact ⟨i, .nil, chain⟩
  | succ m ih =>
    rw [Nat.add_right_comm] at chain
    cases chain with
    | cons st chain =>
      obtain ⟨j, first, second⟩ := ih chain
      exact ⟨j, .cons st first, second⟩

/-- A chain of steps that do not go back does not go back. -/
lemma le {count i j} (forward : ∀ i j, step i j → i ≤ j) (chain : Chain step count i j) : i ≤ j := by
  induction chain with
  | nil => exact le_rfl
  | cons st _ ih => exact (forward _ _ st).trans ih

/-- A chain of steps that do not go back can leave out those that stay where they are: then it has
no more steps than there are positions to go on. -/
lemma shorten {count i j} (forward : ∀ i j, step i j → i ≤ j) (chain : Chain step count i j) :
    ∃ fewer, fewer ≤ count ∧ i + fewer ≤ j ∧ Chain step fewer i j := by
  induction chain with
  | nil => exact ⟨0, le_rfl, le_rfl, .nil⟩
  | @cons count i j k st _ ih =>
    obtain ⟨fewer, few, room, chain⟩ := ih
    obtain stays | goes := Nat.eq_or_lt_of_le (forward _ _ st)
    · subst stays
      exact ⟨fewer, by omega, room, chain⟩
    · exact ⟨fewer + 1, by omega, by omega, .cons st chain⟩

end Chain

namespace Regex

/-- A match does not go back. -/
lemma Matches.le {text regex i j} (m : Matches text regex i j) : i ≤ j := by
  induction regex generalizing i j with
  | empty => exact m.ge
  | set => exact Nat.le_of_lt (m.2 ▸ Nat.lt_succ_self i)
  | look => exact m.2.ge
  | seq a b iha ihb =>
    obtain ⟨j, first, second⟩ := m
    exact (iha first).trans (ihb second)
  | alt a b iha ihb =>
    obtain left | right := m
    · exact iha left
    · exact ihb right
  | repeated a least most ih =>
    obtain ⟨count, -, -, chain⟩ := m
    exact chain.le fun _ _ => ih

end Regex

namespace Positions

/-- Positions of a text of `size` characters, in falling order. -/
def Within (size : Nat) (positions : Positions) : Prop :=
  IsFalling positions ∧ ∀ i ∈ positions, i ≤ size

/-- What is left of positions is in their order. -/
lemma minus_sublist (is js : Positions) : (minus is js).Sublist is := by
  fun_induction minus is js with
  | case1 => exact List.Sublist.refl _
  | case2 => exact List.Sublist.refl _
  | case3 i is j js _ ih => exact ih.cons_cons i
  | case4 i is j js _ _ ih => exact ih
  | case5 i is j js _ _ ih => exact ih.cons i

/-- The union of falling lists is falling. -/
lemma isFalling_union {is js : Positions} (his : IsFalling is) (hjs : IsFalling js) :
    IsFalling (union is js) := by
  fun_induction union is js with
  | case1 => exact hjs
  | case2 => exact his
  | case3 i is j js less ih =>
    refine List.pairwise_cons.2 ⟨fun k mem => ?_, ih his.of_cons hjs⟩
    obtain mem | mem := mem_union.1 mem
    · exact List.rel_of_pairwise_cons his mem
    · obtain rfl | mem := List.mem_cons.1 mem
      · exact less
      · exact (List.rel_of_pairwise_cons hjs mem).trans less
  | case4 i is j js _ less ih =>
    refine List.pairwise_cons.2 ⟨fun k mem => ?_, ih his hjs.of_cons⟩
    obtain mem | mem := mem_union.1 mem
    · obtain rfl | mem := List.mem_cons.1 mem
      · exact less
      · exact (List.rel_of_pairwise_cons his mem).trans less
    · exact List.rel_of_pairwise_cons hjs mem
  | case5 i is j js _ _ ih =>
    obtain rfl : i = j := by omega
    refine List.pairwise_cons.2 ⟨fun k mem => ?_, ih his.of_cons hjs.of_cons⟩
    obtain mem | mem := mem_union.1 mem
    · exact List.rel_of_pairwise_cons his mem
    · exact List.rel_of_pairwise_cons hjs mem

/-- The union of positions of a text is one of positions of the text. -/
lemma Within.union {size is js} (his : Within size is) (hjs : Within size js) :
    Within size (union is js) := by
  refine ⟨isFalling_union his.1 hjs.1, fun i mem => ?_⟩
  obtain mem | mem := mem_union.1 mem
  · exact his.2 i mem
  · exact hjs.2 i mem

/-- A part of the positions of a text is one of positions of the text. -/
lemma Within.sublist {size is js} (his : Within size is) (sub : js.Sublist is) : Within size js :=
  ⟨his.1.sublist sub, fun i mem => his.2 i (sub.subset mem)⟩

/-- Every position of a text is one. -/
lemma within_upTo (size : Nat) : Within size (upTo size) := by
  refine ⟨List.pairwise_reverse.2 List.pairwise_lt_range, fun i mem => ?_⟩
  have := List.mem_range.1 (List.mem_reverse.1 mem)
  omega

/-- The function takes positions of a text of `size` characters to those that a step leads to from
one of them. -/
def Follows (size : Nat) (f : Positions → Positions) (step : Nat → Nat → Prop) : Prop :=
  ∀ positions, Within size positions →
    Within size (f positions) ∧ ∀ j, j ∈ f positions ↔ ∃ i ∈ positions, step i j

variable {size : Nat} {f : Positions → Positions} {step : Nat → Nat → Prop}

/-- To follow a step a number of times is to follow chains of as many steps. -/
lemma Follows.repeatExactly (follows : Follows size f step) (count : Nat) :
    Follows size (repeatExactly f count) (Chain step count) := by
  induction count with
  | zero =>
    intro positions within
    refine ⟨within, fun j => ⟨fun mem => ⟨j, mem, .nil⟩, ?_⟩⟩
    rintro ⟨i, mem, chain⟩
    cases chain
    exact mem
  | succ count ih =>
    intro positions within
    rw [Pattern.repeatExactly]
    split
    · rename_i empty
      obtain rfl := List.isEmpty_iff.1 empty
      exact ⟨within, fun j => ⟨nofun, nofun⟩⟩
    · obtain ⟨within', mem'⟩ := follows positions within
      obtain ⟨within'', mem''⟩ := ih (f positions) within'
      refine ⟨within'', fun k => (mem'' k).trans ⟨?_, ?_⟩⟩
      · rintro ⟨j, reached, chain⟩
        obtain ⟨i, mem, st⟩ := (mem' j).1 reached
        exact ⟨i, mem, .cons st chain⟩
      · rintro ⟨i, mem, chain⟩
        cases chain with
        | cons st chain => exact ⟨_, (mem' _).2 ⟨i, mem, st⟩, chain⟩

/-- A step from a position of the text leads to one. -/
lemma Follows.le (follows : Follows size f step) {i j} (inside : i ≤ size) (st : step i j) :
    j ≤ size := by
  have within : Within size [i] := ⟨List.pairwise_singleton _ _, fun k mem => by
    rwa [List.mem_singleton.1 mem]⟩
  obtain ⟨within', mem⟩ := follows [i] within
  exact within'.2 j ((mem j).2 ⟨i, List.mem_singleton_self i, st⟩)

/-- Spreading finds what chains of up to as many steps as there are rounds lead to, if only fresh
positions lead to anything that has not been reached. -/
lemma Follows.spread (follows : Follows size f step) (rounds : Nat) {reached fresh : Positions}
    (known : Within size reached) (new : Within size fresh) (part : ∀ i ∈ fresh, i ∈ reached)
    (closed : ∀ i ∈ reached, i ∉ fresh → ∀ j, step i j → j ∈ reached) :
    Within size (spread f rounds reached fresh) ∧
      ∀ j, j ∈ spread f rounds reached fresh ↔
        ∃ i ∈ reached, ∃ count ≤ rounds, Chain step count i j := by
  induction rounds generalizing reached fresh with
  | zero =>
    refine ⟨known, fun j => ⟨fun mem => ⟨j, mem, 0, le_rfl, .nil⟩, ?_⟩⟩
    rintro ⟨i, mem, count, none, chain⟩
    obtain rfl := Nat.le_zero.1 none
    cases chain
    exact mem
  | succ rounds ih =>
    obtain ⟨within, mem⟩ := follows fresh new
    have mem' (j) : j ∈ (f fresh).minus reached ↔ (∃ i ∈ fresh, step i j) ∧ j ∉ reached := by
      rw [mem_minus within.1 known.1, mem]
    -- every step from what has been reached leads to that, or to what comes new
    have next (i) (reachedI : i ∈ reached) (j) (st : step i j) :
        j ∈ (f fresh).minus reached ∨ j ∈ reached := by
      by_cases freshI : i ∈ fresh
      · by_cases reachedJ : j ∈ reached
        · exact .inr reachedJ
        · exact .inl ((mem' j).2 ⟨⟨i, freshI, st⟩, reachedJ⟩)
      · exact .inr (closed i reachedI freshI j st)
    rw [Pattern.spread]
    split
    · rename_i nothing
      rw [nothing] at next
      refine ⟨known, fun j => ⟨fun reachedJ => ⟨j, reachedJ, 0, Nat.zero_le _, .nil⟩, ?_⟩⟩
      rintro ⟨i, reachedI, count, -, chain⟩
      induction chain with
      | nil => exact reachedI
      | cons st _ ih =>
        obtain none | reachedJ := next _ reachedI _ st
        · cases none
        · exact ih reachedJ
    · have within' := within.sublist (minus_sublist (f fresh) reached)
      have later := ih (within'.union known) within' (fun i mem => mem_union.2 (.inl mem))
        (fun i known notNew j st => by
          obtain isNew | reachedI := mem_union.1 known
          · exact absurd isNew notNew
          · exact mem_union.2 (next i reachedI j st))
      refine ⟨later.1, fun j => (later.2 j).trans ⟨?_, ?_⟩⟩
      · rintro ⟨i, known, count, few, chain⟩
        obtain isNew | reachedI := mem_union.1 known
        · obtain ⟨⟨k, freshK, st⟩, -⟩ := (mem' i).1 isNew
          exact ⟨k, part k freshK, count + 1, by omega, .cons st chain⟩
        · exact ⟨i, reachedI, count, by omega, chain⟩
      · rintro ⟨i, reachedI, count, few, chain⟩
        cases chain with
        | nil => exact ⟨_, mem_union.2 (.inr reachedI), 0, Nat.zero_le _, .nil⟩
        | cons st chain =>
          exact ⟨_, mem_union.2 (next _ reachedI _ st), _, by omega, chain⟩

end Positions

namespace Regex

open Positions

/-- Following the characters of a set. -/
lemma follows_set (text : Array Char) (s : CharSet) :
    Follows text.size (run text (.set s)) ((set s).Matches text) := by
  have holds (i) : s.holdsAt text i = true ↔ ∃ c, text[i]? = some c ∧ s.contains c.toNat = true := by
    rw [CharSet.holdsAt]
    cases at_ : text[i]? with
    | none => simp
    | some c => simp
  intro positions within
  rw [run]
  refine ⟨⟨?_, fun j mem => ?_⟩, fun j => ?_⟩
  · refine List.pairwise_map.2 ((within.1.sublist List.filter_sublist).imp fun {i j} less => ?_)
    omega
  · obtain ⟨i, memI, rfl⟩ := List.mem_map.1 mem
    obtain ⟨c, at_, -⟩ := (holds i).1 (List.mem_filter.1 memI).2
    obtain ⟨inside, -⟩ := Array.getElem?_eq_some_iff.1 at_
    exact inside
  · rw [List.mem_map]
    constructor
    · rintro ⟨i, mem, rfl⟩
      obtain ⟨mem, held⟩ := List.mem_filter.1 mem
      exact ⟨i, mem, (holds i).1 held, rfl⟩
    · rintro ⟨i, mem, held, rfl⟩
      exact ⟨i, List.mem_filter.2 ⟨mem, (holds i).2 held⟩, rfl⟩

/-- Following a condition. -/
lemma follows_look (text : Array Char) (l : Look) :
    Follows text.size (run text (.look l)) ((look l).Matches text) := by
  intro positions within
  rw [run]
  refine ⟨within.sublist List.filter_sublist, fun j => List.mem_filter.trans ⟨?_, ?_⟩⟩
  · rintro ⟨mem, held⟩
    exact ⟨j, mem, held, rfl⟩
  · rintro ⟨i, mem, held, rfl⟩
    exact ⟨mem, held⟩

/-- Following one expression and then the other. -/
lemma follows_seq {text : Array Char} {a b : Regex}
    (first : Follows text.size (run text a) (a.Matches text))
    (second : Follows text.size (run text b) (b.Matches text)) :
    Follows text.size (run text (.seq a b)) ((seq a b).Matches text) := by
  intro positions within
  obtain ⟨within', mem'⟩ := first positions within
  obtain ⟨within'', mem''⟩ := second _ within'
  rw [run]
  refine ⟨within'', fun k => (mem'' k).trans ⟨?_, ?_⟩⟩
  · rintro ⟨j, reached, m⟩
    obtain ⟨i, mem, m'⟩ := (mem' j).1 reached
    exact ⟨i, mem, j, m', m⟩
  · rintro ⟨i, mem, j, m', m⟩
    exact ⟨j, (mem' j).2 ⟨i, mem, m'⟩, m⟩

/-- Following either expression. -/
lemma follows_alt {text : Array Char} {a b : Regex}
    (left : Follows text.size (run text a) (a.Matches text))
    (right : Follows text.size (run text b) (b.Matches text)) :
    Follows text.size (run text (.alt a b)) ((alt a b).Matches text) := by
  intro positions within
  obtain ⟨within', mem'⟩ := left positions within
  obtain ⟨within'', mem''⟩ := right positions within
  rw [run]
  refine ⟨within'.union within'', fun j => mem_union.trans ?_⟩
  rw [mem', mem'']
  constructor
  · rintro (⟨i, mem, m⟩ | ⟨i, mem, m⟩)
    · exact ⟨i, mem, .inl m⟩
    · exact ⟨i, mem, .inr m⟩
  · rintro ⟨i, mem, m | m⟩
    · exact .inl ⟨i, mem, m⟩
    · exact .inr ⟨i, mem, m⟩

/-- Following a repetition. The rounds are enough, since a chain needs no more steps than there are
characters. -/
lemma follows_repeated {text : Array Char} {a : Regex} (least most)
    (body : Follows text.size (run text a) (a.Matches text)) :
    Follows text.size (run text (.repeated a least most))
      ((repeated a least most).Matches text) := by
  intro positions within
  obtain ⟨start, memStart⟩ := body.repeatExactly least positions within
  have found := body.spread
    (most.elim text.size fun most => min (most - least) text.size)
    start start (fun _ => id) (fun i mem out => absurd mem out)
  have unrolled : run text (.repeated a least most) positions =
      spread (run text a) (most.elim text.size fun most => min (most - least) text.size)
        (repeatExactly (run text a) least positions)
        (repeatExactly (run text a) least positions) := by
    cases most <;> rfl
  rw [unrolled]
  refine ⟨found.1, fun j => (found.2 j).trans ⟨?_, ?_⟩⟩
  · rintro ⟨q, mem, count, few, chain⟩
    obtain ⟨p, mem, chain'⟩ := (memStart q).1 mem
    refine ⟨p, mem, least + count, Nat.le_add_right _ _, ?_, chain'.append chain⟩
    rintro limit rfl
    have few : count ≤ min (limit - least) text.size := few
    omega
  · rintro ⟨p, mem, count, enough, limited, chain⟩
    obtain ⟨extra, rfl⟩ := Nat.exists_eq_add_of_le enough
    obtain ⟨q, chain', chain⟩ := chain.split
    obtain ⟨fewer, few, room, short⟩ := chain.shorten fun _ _ => Matches.le
    have memQ := (memStart q).2 ⟨p, mem, chain'⟩
    have inside : j ≤ text.size := (body.repeatExactly extra).le (start.2 q memQ) chain
    refine ⟨q, memQ, fewer, ?_, short⟩
    cases most with
    | none =>
      show fewer ≤ text.size
      omega
    | some limit =>
      have := limited limit rfl
      show fewer ≤ min (limit - least) text.size
      omega

/-- Running an expression follows its matches. -/
theorem run_follows (text : Array Char) (regex : Regex) :
    Follows text.size (run text regex) (regex.Matches text) := by
  induction regex with
  | empty =>
    intro positions within
    refine ⟨within, fun j => ⟨fun mem => ⟨j, mem, rfl⟩, ?_⟩⟩
    rintro ⟨i, mem, rfl⟩
    exact mem
  | set s => exact follows_set text s
  | look l => exact follows_look text l
  | seq a b first second => exact follows_seq first second
  | alt a b left right => exact follows_alt left right
  | repeated a least most body => exact follows_repeated least most body

/-- An expression is found in a text where it matches between two of its positions. -/
lemma isMatch_iff {regex : Regex} {text : String} :
    regex.isMatch text ↔ ∃ i ≤ text.toList.length, ∃ j, regex.Matches text.toList.toArray i j := by
  have size : text.toList.toArray.size = text.toList.length := List.size_toArray
  obtain ⟨-, mem⟩ := run_follows text.toList.toArray regex _ (within_upTo text.toList.toArray.size)
  have upTo (i) : i ∈ upTo text.toList.toArray.size ↔ i ≤ text.toList.length := by
    rw [Positions.upTo, List.mem_reverse, List.mem_range, size, Nat.lt_succ_iff]
  rw [isMatch, Bool.not_eq_true', List.isEmpty_eq_false_iff_exists_mem]
  constructor
  · rintro ⟨j, reached⟩
    obtain ⟨i, inside, m⟩ := (mem j).1 reached
    exact ⟨i, (upTo i).1 inside, j, m⟩
  · rintro ⟨i, inside, j, m⟩
    exact ⟨j, (mem j).2 ⟨i, (upTo i).2 inside, m⟩⟩

/-- Only the first position is at the start of a text. -/
lemma holdsAt_textStart_iff {text : Array Char} {i} (inside : i ≤ text.size) :
    Look.textStart.holdsAt text i = true ↔ i = 0 := by
  rw [Look.holdsAt, Look.holds]
  cases i with
  | zero => simp
  | succ i => simp [show i < text.size by omega]

/-- Only the last position is at the end of a text. -/
lemma holdsAt_textEnd_iff {text : Array Char} {i} (inside : i ≤ text.size) :
    Look.textEnd.holdsAt text i = true ↔ i = text.size := by
  rw [Look.holdsAt, Look.holds, Option.isNone_iff_eq_none, Array.getElem?_eq_none_iff]
  omega

/-- Between conditions for both ends of the text, an expression is found only where it matches the
whole text. -/
theorem isMatch_anchored_iff {regex : Regex} {text : String} :
    (seq (.look .textStart) (seq regex (.look .textEnd))).isMatch text ↔
      regex.MatchesWhole text := by
  have size : text.toList.toArray.size = text.toList.length := List.size_toArray
  rw [isMatch_iff]
  constructor
  · rintro ⟨i, inside, j, _, ⟨atStart, rfl⟩, k, m, atEnd, rfl⟩
    have last := (run_follows text.toList.toArray regex).le (by omega) m
    obtain rfl := (holdsAt_textStart_iff (by omega)).1 atStart
    obtain rfl := (holdsAt_textEnd_iff last).1 atEnd
    rwa [size] at m
  · intro m
    refine ⟨0, Nat.zero_le _, _, 0, ⟨?_, rfl⟩, _, m, ?_, rfl⟩
    · exact (holdsAt_textStart_iff (Nat.zero_le _)).2 rfl
    · exact (holdsAt_textEnd_iff (by omega)).2 size.symm

end Regex

end DexTriage.Pattern
