import DexTriage.Signature.Catalog
import DexTriage.Proofs.Pattern.Anchored
import DexTriage.Proofs.Pattern.Matching

/-!
# What signatures match

A signature anchors the text of its pattern. `Matcher.anchors_pattern` says what comes of that: a
pattern that compiles on its own and leaves room for the signs around it matches whole texts and
nothing else, and no other pattern compiles, unless it closes the group that it is put into.
-/

namespace DexTriage

open Pattern

/-- A pattern closes a group that it has not opened. -/
def ClosesOutside (pattern : String) : Prop :=
  ComesToParenthesis .start pattern.toList

/-- A pattern that compiles leaves room for the signs of the start and the end of a text around
it. -/
structure LeavesRoom (pattern : String) (regex : Regex) : Prop where
  /-- What is put behind the pattern is refused as closing no group, not swallowed by a comment. -/
  unswallowed : Regex.compile (pattern ++ ")$") = none
  /-- There may be two more levels around the tree. -/
  nested : ∀ tree, Ast.parse pattern.toList = some tree →
    tree.depth false false + 2 ≤ nestLimit
  /-- There may be two more states around the expression. -/
  light : regex.weight + 2 ≤ weightLimit

instance (regex : Regex) (text : String) : Decidable (regex.MatchesWhole text) :=
  decidable_of_iff (regex.anchored.isMatch text = true) Regex.isMatch_anchored_iff

/-- A pattern with an expression compiles anchored if it leaves room, to the expression between
conditions for both ends. -/
lemma compile_anchored_iff {pattern : String} {regex whole : Regex}
    (compiled : Regex.compile pattern = some regex) :
    Regex.compile (anchored pattern) = some whole ↔
      LeavesRoom pattern regex ∧ whole = regex.anchored := by
  obtain ⟨tree, flags, read, shallow, meaning, light⟩ := compile_eq_some_iff.1 compiled
  have parsed := parse_eq_some_iff.2 ⟨read, shallow⟩
  cases anchoredTree pattern with
  | refused fails => cases read.symm.trans fails
  | outside comes => cases read.symm.trans (tree?_of_parenthesis comes)
  | swallowed tree' read' swallows fails =>
    obtain rfl := Option.some.inj (read.symm.trans read')
    refine ⟨fun compiled' => ?_, fun ⟨room, _⟩ => ?_⟩
    · obtain ⟨_, _, read', -⟩ := compile_eq_some_iff.1 compiled'
      cases read'.symm.trans fails
    · have same : Regex.compile (pattern ++ ")$") = some regex :=
        compile_eq_some_iff.2 ⟨tree, flags, swallows, shallow, meaning, light⟩
      cases same.symm.trans room.unswallowed
  | kept tree' read' refuses reads =>
    obtain rfl := Option.some.inj (read.symm.trans read')
    have meaning' : tree.anchored.regex? {} = some (regex.anchored, {}) := by
      rw [regex?_anchored, meaning]
      rfl
    constructor
    · intro compiled'
      obtain ⟨tree', flags', reads', shallow', meant, light'⟩ := compile_eq_some_iff.1 compiled'
      obtain rfl := Option.some.inj (reads.symm.trans reads')
      obtain ⟨rfl, -⟩ := Prod.mk.inj (Option.some.inj (meaning'.symm.trans meant))
      refine ⟨⟨?_, ?_, ?_⟩, rfl⟩
      · rw [Option.eq_none_iff_forall_ne_some]
        intro r compiled''
        obtain ⟨_, _, read'', -⟩ := compile_eq_some_iff.1 compiled''
        cases read''.symm.trans refuses
      · intro tree' parsed'
        obtain rfl := Option.some.inj (parsed.symm.trans parsed')
        rwa [← depth_anchored]
      · rwa [← weight_anchored]
    · rintro ⟨room, rfl⟩
      refine compile_eq_some_iff.2 ⟨_, _, reads, ?_, meaning', ?_⟩
      · rw [depth_anchored]
        exact room.nested tree parsed
      · rw [weight_anchored]
        exact room.light

/-- A pattern that compiles anchored, but not on its own, closes a group that it has not opened. -/
lemma closesOutside_of_compile {pattern : String} {whole : Regex}
    (refused : Regex.compile pattern = none)
    (compiled : Regex.compile (anchored pattern) = some whole) : ClosesOutside pattern := by
  obtain ⟨tree', flags', reads', shallow', meant, light'⟩ := compile_eq_some_iff.1 compiled
  cases anchoredTree pattern with
  | refused _ fails => cases reads'.symm.trans fails
  | outside comes => exact comes
  | swallowed _ _ _ fails => cases reads'.symm.trans fails
  | kept tree read _ reads =>
    obtain rfl := Option.some.inj (reads.symm.trans reads')
    rw [regex?_anchored] at meant
    obtain ⟨⟨regex, flags⟩, meaning, same⟩ := Option.map_eq_some_iff.1 meant
    obtain ⟨rfl, -⟩ := Prod.mk.inj same
    rw [depth_anchored] at shallow'
    rw [weight_anchored] at light'
    have alone : Regex.compile pattern = some regex :=
      compile_eq_some_iff.2 ⟨tree, flags, read, by omega, meaning, by omega⟩
    cases alone.symm.trans refused

/-- A signature that is added last puts its label last. -/
lemma Catalog.labels_append (catalog : Catalog) (signature : Signature) (text) :
    Catalog.labels ⟨catalog.signatures ++ [signature]⟩ text =
      catalog.labels text ++ if signature.matcher.isMatch text then [signature.label] else [] := by
  rw [labels, labels, List.filter_append, List.map_append]
  cases matched : signature.matcher.isMatch text with
  | true => simp [matched]
  | false => simp [matched]

namespace Matcher

/-- A pattern that compiles on its own makes a signature exactly if it leaves room for the signs
around it. The signature then matches a text exactly if the pattern matches it from its first to its
last character, and a catalog reports its label for no other text. A pattern that does not compile
makes no signature, unless it closes a group that it has not opened; such a pattern never compiles on
its own. -/
theorem anchors_pattern (pattern : String) :
    (∀ regex, Regex.compile pattern = some regex →
      ((compile? pattern).isSome ↔ LeavesRoom pattern regex) ∧
      (∀ matcher, compile? pattern = some matcher →
        ∀ text, matcher.isMatch text ↔ regex.MatchesWhole text) ∧
      ∀ catalog label grown, Catalog.addPattern catalog pattern label = .ok grown →
        ∀ text, grown.labels text =
          catalog.labels text ++ if regex.MatchesWhole text then [label] else []) ∧
    (Regex.compile pattern = none → (compile? pattern).isSome → ClosesOutside pattern) ∧
    (ClosesOutside pattern → Regex.compile pattern = none) := by
  have spelled {matcher} : compile? pattern = some matcher ↔
      ∃ whole, Regex.compile (anchored pattern) = some whole ∧
        matcher = .regex (anchored pattern) whole := by
    rw [compile?, Option.map_eq_some_iff]
    exact exists_congr fun whole => and_congr_right fun _ => eq_comm
  refine ⟨?_, ?_, ?_⟩
  · intro regex compiled
    have matching {matcher} (makes : compile? pattern = some matcher) (text) :
        matcher.isMatch text ↔ regex.MatchesWhole text := by
      obtain ⟨whole, compiled', rfl⟩ := spelled.1 makes
      obtain ⟨-, rfl⟩ := (compile_anchored_iff compiled).1 compiled'
      exact Regex.isMatch_anchored_iff
    refine ⟨⟨fun makes => ?_, fun room => ?_⟩, fun matcher => matching, ?_⟩
    · obtain ⟨matcher, makes⟩ := Option.isSome_iff_exists.1 makes
      obtain ⟨whole, compiled', -⟩ := spelled.1 makes
      exact ((compile_anchored_iff compiled).1 compiled').1
    · exact Option.isSome_iff_exists.2
        ⟨_, spelled.2 ⟨_, (compile_anchored_iff compiled).2 ⟨room, rfl⟩, rfl⟩⟩
    · intro catalog label grown added text
      rw [Catalog.addPattern] at added
      split at added
      · rename_i matcher makes
        cases added
        rw [Catalog.labels_append]
        exact congrArg _ (if_congr (matching makes text) rfl rfl)
      · cases added
  · intro refused makes
    obtain ⟨matcher, makes⟩ := Option.isSome_iff_exists.1 makes
    obtain ⟨whole, compiled, -⟩ := spelled.1 makes
    exact closesOutside_of_compile refused compiled
  · intro outside
    rw [Option.eq_none_iff_forall_ne_some]
    intro regex compiled
    obtain ⟨_, _, read, -⟩ := compile_eq_some_iff.1 compiled
    cases read.symm.trans (tree?_of_parenthesis outside)

/-- Either alternative has to match the whole of a text, not only its start. -/
theorem anchors_alternatives :
    ∃ matcher, compile? "a|ab" = some matcher ∧ matcher.isMatch "ab" = true ∧
      matcher.isMatch "abc" = false := by
  have compiled : Regex.compile "a|ab" = some
      (.alt (.set (.single 'a')) (.seq (.set (.single 'a')) (.set (.single 'b')))) := by
    decide +kernel
  have makes : (compile? "a|ab").isSome := by decide +kernel
  obtain ⟨matcher, makes⟩ := Option.isSome_iff_exists.1 makes
  obtain ⟨-, matching, -⟩ := (anchors_pattern "a|ab").1 _ compiled
  refine ⟨matcher, makes, (matching matcher makes "ab").2 ?_, ?_⟩
  · exact .inr ⟨1, ⟨⟨'a', by decide, by decide⟩, rfl⟩, ⟨'b', by decide, by decide⟩, rfl⟩
  · rw [Bool.eq_false_iff]
    intro matched
    have length : "abc".toList.length = 3 := by decide
    have whole := (matching matcher makes "abc").1 matched
    rw [Regex.MatchesWhole, length] at whole
    obtain ⟨-, ends⟩ | ⟨j, ⟨-, rfl⟩, -, ends⟩ := whole
    · cases ends
    · cases ends

/-- The parentheses do not match up in the pattern, but they do between the signs around it. Then
the first alternative need not go on to the end of a text. -/
theorem matches_prefix :
    Regex.compile "a)|(b" = none ∧
      ∃ matcher, compile? "a)|(b" = some matcher ∧ matcher.isMatch "ax" = true := by
  have compiled : Regex.compile (anchored "a)|(b") = some
      (.alt (.seq (.look .textStart) (.set (.single 'a')))
        (.seq (.set (.single 'b')) (.look .textEnd))) := by
    decide +kernel
  refine ⟨by decide +kernel, _, congrArg (Option.map _) compiled, Regex.isMatch_iff.2 ?_⟩
  exact ⟨0, Nat.zero_le _, 1, .inl ⟨0, ⟨by decide, rfl⟩, ⟨'a', by decide, by decide⟩, rfl⟩⟩

end Matcher

end DexTriage
