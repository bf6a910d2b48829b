import Mathlib
import DexTriage.Url.Scan

/-!
# Which brackets trimming keeps

Reading a text from left to right, a closing bracket is paired with the nearest opening bracket of
its kind that still waits for one (`Pairing`). Trimming counts brackets instead: it gives the longest
start of a text that ends with no punctuation, or with a closing bracket that is not outnumbered
(`isLongestPrefix_trim`). Such a bracket always has its pair (`isPaired_of_not_outnumbered`), but a
bracket that has its pair may be outnumbered because of others that have none.
-/

namespace DexTriage.Url

/-- What has been read of the brackets of one kind, each by its place in the text. -/
structure Pairing where
  /-- The opening brackets that wait for a closing one, the nearest first. -/
  waiting : List Nat
  /-- Each opening bracket with its closing one. -/
  pairs : List (Nat × Nat)
  /-- The closing brackets for which no opening one was waiting. -/
  stray : List Nat

namespace Pairing

/-- What has been read after one more character. -/
def read (opening closing : Char) (pairing : Pairing) : Char × Nat → Pairing
  | (c, place) =>
    if c = opening then
      { pairing with waiting := place :: pairing.waiting }
    else if c = closing then
      match pairing.waiting with
      | [] => { pairing with stray := place :: pairing.stray }
      | nearest :: waiting => { pairing with waiting, pairs := (nearest, place) :: pairing.pairs }
    else
      pairing

/-- The brackets of one kind in a text, read from left to right. -/
def ofText (opening closing : Char) (text : List Char) : Pairing :=
  text.zipIdx.foldl (read opening closing) ⟨[], [], []⟩

end Pairing

/-- The last character of a text has its opening bracket in the text. -/
def IsPaired (opening closing : Char) (text : List Char) : Prop :=
  ∃ place, (place, text.length - 1) ∈ (Pairing.ofText opening closing text).pairs

/-- A text has at least as many opening brackets of a kind as closing ones. -/
def IsNotOutnumbered (opening closing : Char) (text : List Char) : Prop :=
  text.count closing ≤ text.count opening

/-- A text is empty, or its last character is no punctuation, or is a closing bracket that the text
accounts for. -/
def EndsWell (accounts : (opening closing : Char) → List Char → Prop) (text : List Char) : Prop :=
  text = [] ∨ ∃ last, text.getLast? = some last ∧
    (last ∉ trailingPunctuation ∨
      ∃ opening, openingBracket? last = some opening ∧ accounts opening last text)

/-- The longest start of a text that has a property. -/
structure IsLongestPrefix (p : List Char → Prop) (text start : List Char) : Prop where
  starts : start <+: text
  has : p start
  longest : ∀ other, other <+: text → p other → other.length ≤ start.length

section LongestPrefix

variable {p q : List Char → Prop} {text start : List Char}

/-- A text that has the property is its own longest start. -/
lemma IsLongestPrefix.self (has : p text) : IsLongestPrefix p text text :=
  ⟨List.prefix_rfl, has, fun _ starts _ => starts.length_le⟩

/-- A last character without which the property would not fail can be left out. -/
lemma IsLongestPrefix.concat {last} (longest : IsLongestPrefix p text start)
    (fails : ¬ p (text ++ [last])) : IsLongestPrefix p (text ++ [last]) start := by
  refine ⟨longest.starts.trans (List.prefix_append _ _), longest.has, fun other starts has => ?_⟩
  obtain rfl | starts := List.prefix_concat_iff.1 starts
  · exact absurd has fails
  · exact longest.longest other starts has

/-- There is a longest start if the empty one will do. -/
lemma exists_isLongestPrefix (empty : p []) (text) : ∃ start, IsLongestPrefix p text start := by
  induction text using List.reverseRecOn with
  | nil => exact ⟨[], .self empty⟩
  | append_singleton text last ih =>
    by_cases has : p (text ++ [last])
    · exact ⟨_, .self has⟩
    · obtain ⟨start, longest⟩ := ih
      exact ⟨start, longest.concat has⟩

variable {start' : List Char} (longest : IsLongestPrefix p text start)
  (longest' : IsLongestPrefix q text start') (weaker : ∀ text, p text → q text)

include longest longest' weaker

/-- The longest start with a weaker property goes further. -/
lemma IsLongestPrefix.prefix_of_weaker : start <+: start' :=
  List.prefix_of_prefix_length_le longest.starts longest'.starts
    (longest'.longest start longest.starts (weaker start longest.has))

/-- The longest start with a weaker property goes no further exactly if it has the stronger one. -/
lemma IsLongestPrefix.eq_iff_of_weaker : start = start' ↔ p start' := by
  constructor
  · rintro rfl
    exact longest.has
  · intro has
    exact (longest.prefix_of_weaker longest' weaker).eq_of_length_le
      (longest.longest start' longest'.starts has)

end LongestPrefix

namespace Pairing

variable {opening closing : Char}

/-- One more character is read behind the others. -/
lemma ofText_concat (text : List Char) (last : Char) :
    ofText opening closing (text ++ [last]) =
      read opening closing (ofText opening closing text) (last, text.length) := by
  rw [ofText, List.zipIdx_append, List.foldl_append, Nat.zero_add]
  rfl

/-- What has been read accounts for every bracket of a text, and each pair is one of them. -/
structure Accounts (opening closing : Char) (text : List Char) (pairing : Pairing) : Prop where
  count_opening : pairing.waiting.length + pairing.pairs.length = text.count opening
  count_closing : pairing.stray.length + pairing.pairs.length = text.count closing
  before_end : ∀ pair ∈ pairing.pairs, pair.2 < text.length

/-- An opening bracket waits for a closing one. -/
lemma read_opening (pairing : Pairing) (place) :
    pairing.read opening closing (opening, place) =
      { pairing with waiting := place :: pairing.waiting } :=
  if_pos rfl

/-- A closing bracket for which none is waiting is stray. -/
lemma read_stray {pairing : Pairing} (different : opening ≠ closing) (none : pairing.waiting = [])
    (place) :
    pairing.read opening closing (closing, place) =
      { pairing with stray := place :: pairing.stray } := by
  rw [read, if_neg different.symm, if_pos rfl, none]

/-- A closing bracket is paired with the nearest that is waiting. -/
lemma read_pair {pairing : Pairing} (different : opening ≠ closing) {nearest waiting}
    (some : pairing.waiting = nearest :: waiting) (place) :
    pairing.read opening closing (closing, place) =
      { pairing with waiting, pairs := (nearest, place) :: pairing.pairs } := by
  rw [read, if_neg different.symm, if_pos rfl, some]

/-- Any other character is passed over. -/
lemma read_other (pairing : Pairing) {c} (opens : c ≠ opening) (closes : c ≠ closing) (place) :
    pairing.read opening closing (c, place) = pairing := by
  rw [read, if_neg opens, if_neg closes]

/-- One more character is accounted for. -/
lemma Accounts.read {text pairing} (accounts : Accounts opening closing text pairing)
    (different : opening ≠ closing) (last : Char) :
    Accounts opening closing (text ++ [last])
      (pairing.read opening closing (last, text.length)) := by
  obtain ⟨count_opening, count_closing, before_end⟩ := accounts
  have later : ∀ pair ∈ pairing.pairs, pair.2 < (text ++ [last]).length := fun pair mem =>
    (before_end pair mem).trans_le (List.prefix_append text [last]).length_le
  have count (c : Char) : (text ++ [last]).count c = text.count c + if last = c then 1 else 0 := by
    rw [List.count_append, List.count_singleton]
    simp only [beq_iff_eq]
  by_cases opens : last = opening
  · subst opens
    rw [read_opening]
    refine ⟨?_, ?_, later⟩
    · rw [count, if_pos rfl, List.length_cons, ← count_opening, Nat.add_right_comm]
    · rw [count, if_neg different, count_closing, Nat.add_zero]
  by_cases closes : last = closing
  · subst closes
    cases waits : pairing.waiting with
    | nil =>
      rw [read_stray different waits]
      refine ⟨?_, ?_, later⟩
      · rw [count, if_neg opens, count_opening, Nat.add_zero]
      · rw [count, if_pos rfl, List.length_cons, ← count_closing, Nat.add_right_comm]
    | cons nearest waiting =>
      rw [waits, List.length_cons] at count_opening
      rw [read_pair different waits]
      refine ⟨?_, ?_, List.forall_mem_cons.2 ⟨?_, later⟩⟩
      · rw [count, if_neg opens, Nat.add_zero, ← count_opening, List.length_cons]
        exact Nat.add_right_comm _ _ 1
      · rw [count, if_pos rfl, List.length_cons, ← count_closing]
        rfl
      · rw [List.length_append, List.length_singleton]
        exact Nat.lt_succ_self _
  · rw [read_other _ opens closes]
    refine ⟨?_, ?_, later⟩
    · rw [count, if_neg opens, count_opening, Nat.add_zero]
    · rw [count, if_neg closes, count_closing, Nat.add_zero]

/-- Every bracket of a text is accounted for. -/
lemma accounts_ofText (different : opening ≠ closing) (text : List Char) :
    Accounts opening closing text (ofText opening closing text) := by
  induction text using List.reverseRecOn with
  | nil => exact ⟨rfl, rfl, nofun⟩
  | append_singleton text last ih =>
    rw [ofText_concat]
    exact ih.read different last

end Pairing

section Brackets

variable {opening closing : Char} {text : List Char}

/-- A closing bracket is trailing punctuation, and is no opening bracket. -/
lemma of_openingBracket? (bracket : openingBracket? closing = some opening) :
    closing ∈ trailingPunctuation ∧ opening ≠ closing := by
  rw [openingBracket?.eq_def] at bracket
  split at bracket
  all_goals first
    | cases bracket
      exact ⟨by decide, by decide⟩
    | cases bracket

/-- A closing bracket has its pair exactly if an opening one was waiting. -/
lemma isPaired_concat_iff (different : opening ≠ closing) :
    IsPaired opening closing (text ++ [closing]) ↔
      (Pairing.ofText opening closing text).waiting ≠ [] := by
  obtain ⟨-, -, before_end⟩ := Pairing.accounts_ofText different text
  rw [IsPaired, Pairing.ofText_concat, List.length_append, List.length_singleton,
    Nat.add_sub_cancel]
  cases waits : (Pairing.ofText opening closing text).waiting with
  | nil =>
    rw [Pairing.read_stray different waits]
    refine ⟨?_, fun some => absurd rfl some⟩
    rintro ⟨place, mem⟩
    exact absurd (before_end _ mem) (lt_irrefl _)
  | cons nearest waiting =>
    rw [Pairing.read_pair different waits]
    exact ⟨fun _ => List.cons_ne_nil _ _, fun _ => ⟨nearest, .head _⟩⟩

/-- A closing bracket that is not outnumbered has its pair. -/
lemma isPaired_of_not_outnumbered (different : opening ≠ closing)
    (enough : IsNotOutnumbered opening closing (text ++ [closing])) :
    IsPaired opening closing (text ++ [closing]) := by
  obtain ⟨count_opening, count_closing, -⟩ := Pairing.accounts_ofText different text
  rw [isPaired_concat_iff different]
  intro none
  rw [none, List.length_nil] at count_opening
  rw [IsNotOutnumbered, List.count_append, List.count_append, List.count_singleton_self,
    List.count_singleton] at enough
  rw [if_neg (by simpa using different.symm)] at enough
  omega

/-- The closing brackets of a kind are outnumbered exactly if more of them are stray than opening
ones are left waiting. -/
lemma isNotOutnumbered_iff (different : opening ≠ closing) :
    IsNotOutnumbered opening closing text ↔
      (Pairing.ofText opening closing text).stray.length ≤
        (Pairing.ofText opening closing text).waiting.length := by
  obtain ⟨count_opening, count_closing, -⟩ := Pairing.accounts_ofText different text
  rw [IsNotOutnumbered]
  omega

/-- The last character decides whether a text ends well. -/
lemma endsWell_concat_iff {accounts before last} :
    EndsWell accounts (before ++ [last]) ↔ last ∉ trailingPunctuation ∨
      ∃ opening, openingBracket? last = some opening ∧ accounts opening last (before ++ [last]) := by
  simp [EndsWell]

/-- A text that ends well for its counts ends well for its pairs. -/
lemma EndsWell.of_not_outnumbered (enough : EndsWell IsNotOutnumbered text) :
    EndsWell IsPaired text := by
  cases text using List.reverseRecOn with
  | nil => exact .inl rfl
  | append_singleton before last =>
    rw [endsWell_concat_iff] at enough ⊢
    refine enough.imp_right ?_
    rintro ⟨opening, bracket, enough⟩
    exact ⟨opening, bracket, isPaired_of_not_outnumbered (of_openingBracket? bracket).2 enough⟩

/-- A text that ends well for its pairs does so for its counts exactly if no more brackets are stray
than are waiting, of the kind of its last. -/
lemma EndsWell.not_outnumbered_iff (paired : EndsWell IsPaired text) :
    EndsWell IsNotOutnumbered text ↔
      ∀ opening closing, text.getLast? = some closing → openingBracket? closing = some opening →
        (Pairing.ofText opening closing text).stray.length ≤
          (Pairing.ofText opening closing text).waiting.length := by
  cases text using List.reverseRecOn with
  | nil => exact ⟨fun _ _ _ => nofun, fun _ => .inl rfl⟩
  | append_singleton before last =>
    rw [endsWell_concat_iff] at paired ⊢
    rw [List.getLast?_concat]
    constructor
    · rintro enough opening _ ⟨rfl⟩ bracket
      obtain ⟨punctuation, different⟩ := of_openingBracket? bracket
      obtain ⟨_, same, enough⟩ := enough.resolve_left (not_not_intro punctuation)
      obtain rfl := Option.some.inj (bracket.symm.trans same)
      exact (isNotOutnumbered_iff different).1 enough
    · intro enough
      refine paired.imp_right ?_
      rintro ⟨opening, bracket, -⟩
      obtain ⟨-, different⟩ := of_openingBracket? bracket
      exact ⟨opening, bracket, (isNotOutnumbered_iff different).2 (enough _ _ rfl bracket)⟩

end Brackets

/-- Trimming looks at the last character. -/
lemma trim_concat (before : List Char) (last : Char) :
    trim (before ++ [last]) =
      if trailingPunctuation.contains last && !closesBracket last (before ++ [last]) then trim before
      else before ++ [last] := by
  have backwards : closesBracket last (last :: before.reverse) =
      closesBracket last (before ++ [last]) := by
    rw [← List.reverse_concat, closesBracket, closesBracket]
    simp only [List.count_reverse]
  rw [trim, List.reverse_concat, trimBackwards, backwards]
  split
  · rfl
  · rw [← List.reverse_concat, List.reverse_reverse]

/-- A last character is kept exactly if the text ends well for its counts. -/
lemma kept_iff {before : List Char} {last : Char} :
    ¬ (trailingPunctuation.contains last && !closesBracket last (before ++ [last])) = true ↔
      EndsWell IsNotOutnumbered (before ++ [last]) := by
  rw [endsWell_concat_iff, closesBracket]
  cases openingBracket? last with
  | none => simp
  | some opening =>
    simp only [Bool.and_eq_true, List.contains_iff_mem, Bool.not_eq_true', decide_eq_false_iff_not,
      not_and, not_not, Option.some.injEq, exists_eq_left', IsNotOutnumbered]
    exact imp_iff_not_or

/-- Trimming gives the longest start of a text that ends well for its counts. -/
lemma isLongestPrefix_trim (text : List Char) :
    IsLongestPrefix (EndsWell IsNotOutnumbered) text (trim text) := by
  induction text using List.reverseRecOn with
  | nil => exact .self (.inl rfl)
  | append_singleton before last ih =>
    rw [trim_concat]
    split
    · rename_i dropped
      exact ih.concat fun ends => kept_iff.2 ends dropped
    · rename_i kept
      exact .self (kept_iff.1 kept)

/-- Trimming cuts off the end. -/
lemma trim_prefix (text) : trim text <+: text :=
  (isLongestPrefix_trim text).starts

/-- There is nothing left to trim. -/
lemma trim_trim (text) : trim (trim text) = trim text := by
  have ends := (isLongestPrefix_trim text).has
  exact ((isLongestPrefix_trim (trim text)).eq_iff_of_weaker (.self ends) fun _ => id).2 ends

/-- Trimming stops at a character that is no punctuation. -/
lemma prefix_trim {start : List Char} (rest) {c} (ends : start.getLast? = some c)
    (kept : trailingPunctuation.contains c = false) : start <+: trim (start ++ rest) := by
  have longest := isLongestPrefix_trim (start ++ rest)
  have starts := List.prefix_append start rest
  have well : EndsWell IsNotOutnumbered start :=
    .inr ⟨c, ends, .inl fun mem => Bool.false_ne_true (kept ▸ List.contains_iff_mem.2 mem)⟩
  exact List.prefix_of_prefix_length_le starts longest.starts (longest.longest start starts well)

/-- Trimming gives the longest start of a text that is empty, or ends with no punctuation, or with a
closing bracket that is not outnumbered. Such a bracket has its opening pair, so that no bracket
without one ends the result. The longest start that ends with no punctuation, or with a closing
bracket that has its pair, goes as far or further: it is what trimming gives exactly if not more of
the brackets of its last kind are stray than are left waiting. -/
theorem trim_eq_iff_no_more_stray (text : List Char) :
    IsLongestPrefix (EndsWell IsNotOutnumbered) text (trim text) ∧
    EndsWell IsPaired (trim text) ∧
    ∃ url, IsLongestPrefix (EndsWell IsPaired) text url ∧ trim text <+: url ∧
      (trim text = url ↔
        ∀ opening closing, url.getLast? = some closing → openingBracket? closing = some opening →
          (Pairing.ofText opening closing url).stray.length ≤
            (Pairing.ofText opening closing url).waiting.length) := by
  have counted := isLongestPrefix_trim text
  have weaker (text : List Char) : EndsWell IsNotOutnumbered text → EndsWell IsPaired text :=
    EndsWell.of_not_outnumbered
  have empty : EndsWell IsPaired [] := .inl rfl
  obtain ⟨url, paired⟩ := exists_isLongestPrefix empty text
  refine ⟨counted, weaker _ counted.has, url, paired, counted.prefix_of_weaker paired weaker, ?_⟩
  rw [counted.eq_iff_of_weaker paired weaker, paired.has.not_outnumbered_iff]

/-- A bracket that has its pair is cut off for another one that has none. -/
theorem trim_cuts_paired :
    IsLongestPrefix (EndsWell IsPaired) "http://a)b(c)".toList "http://a)b(c)".toList ∧
      trim "http://a)b(c)".toList = "http://a)b(c".toList := by
  have ends : "http://a)b(c)".toList.getLast? = some ')' := by decide
  have paired : (10, 12) ∈ (Pairing.ofText '(' ')' "http://a)b(c)".toList).pairs := by decide
  exact ⟨.self (.inr ⟨')', ends, .inr ⟨'(', rfl, 10, paired⟩⟩), by decide⟩

end DexTriage.Url
