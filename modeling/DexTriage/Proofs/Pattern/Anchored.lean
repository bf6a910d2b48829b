import DexTriage.Pattern.Compile
import DexTriage.Proofs.Pattern.Matching
import DexTriage.Proofs.Pattern.Splicing

/-!
# Anchored patterns

The tree of an anchored pattern is that of the pattern between conditions for both ends
(`anchoredTree`), and so is its expression (`regex?_anchored`). The exceptions are those of
`Spliced`. Whether a comment at the end swallows the closing shows without any group around: then, and
only then, the closing can stand behind the pattern.
-/

namespace DexTriage.Pattern

/-- The tree of a pattern, however deep it is nested. -/
def tree? (pattern : List Char) : Option Ast :=
  readPattern (pattern.length + 1) .start pattern

/-- The tree between conditions for both ends. -/
def Ast.anchored (tree : Ast) : Ast :=
  .seq (.primitive (.assertion .lineStart))
    (.seq (.group [] tree) (.primitive (.assertion .lineEnd)))

/-- The expression between conditions for both ends. -/
def Regex.anchored (regex : Regex) : Regex :=
  .seq (.look .textStart) (.seq regex (.look .textEnd))

/-- The group that is open before an anchored pattern. -/
def opening : OpenGroup := ⟨⟨[], [.primitive (.assertion .lineStart)]⟩, [], false⟩

/-- More steps than there are characters make no difference. -/
lemma readPattern_fuel {state : SyntaxState} {text : List Char} {fuel fuel' : Nat}
    (enough : text.length < fuel) (enough' : text.length < fuel') :
    readPattern fuel state text = readPattern fuel' state text := by
  induction fuel generalizing fuel' state text with
  | zero => cases enough
  | succ fuel ih =>
    obtain ⟨fuel', rfl⟩ : ∃ k, fuel' = k + 1 := ⟨fuel' - 1, by omega⟩
    have part := (skip_suffix state.verbose text).length_le
    cases more : skip state.verbose text with
    | nil => rw [readPattern_of_end _ fuel more, readPattern_of_end _ fuel' more]
    | cons c behind =>
      rw [readPattern_of_step _ fuel more, readPattern_of_step _ fuel' more]
      cases step : syntaxStep state c behind with
      | none => rfl
      | some result =>
        have less := (leaves_syntaxStep state c behind _ _ step).length_le
        rw [more, List.length_cons] at part
        exact ih (by omega) (by omega)

/-- What stands before an anchored pattern opens a group. -/
lemma readPattern_opening (fuel text) :
    readPattern (fuel + 2) .start ('^' :: '(' :: '?' :: ':' :: text) =
      readPattern fuel (SyntaxState.start.within [opening]) text := rfl

/-- What stands behind an anchored pattern closes the group. -/
lemma readPattern_closing {final : SyntaxState} (closed : final.groups = []) (left) :
    readPattern (left + 3) (final.within [opening]) closing = some final.level.close.anchored := by
  obtain ⟨level, groups, verbose, names⟩ := final
  obtain rfl : groups = [] := closed
  cases verbose <;> rfl

/-- The closing cannot be read when no group is open. -/
lemma readPattern_closing_alone {final : SyntaxState} (closed : final.groups = []) (left) :
    readPattern (left + 3) (final.within []) closing = none := by
  obtain ⟨level, groups, verbose, names⟩ := final
  obtain rfl : groups = [] := closed
  cases verbose <;> rfl

/-- Conditions at both ends and the group between them are two more levels. -/
lemma depth_anchored (tree : Ast) :
    tree.anchored.depth false false = tree.depth false false + 2 := by
  simp [Ast.anchored, Ast.depth]

/-- The flags of a pattern do not reach the conditions at its ends. -/
lemma regex?_anchored (tree : Ast) :
    tree.anchored.regex? {} = (tree.regex? {}).map fun (regex, _) => (regex.anchored, {}) := by
  have group : (Ast.group [] tree).regex? {} =
      (tree.regex? {}).map fun (regex, _) => (regex, {}) := by
    rw [Ast.regex?]
    show (tree.regex? {} >>= _) = _
    cases tree.regex? {} <;> rfl
  have before : (Ast.primitive (.assertion .lineStart)).regex? {} =
      some (.look .textStart, {}) := rfl
  have behind : (Ast.primitive (.assertion .lineEnd)).regex? {} = some (.look .textEnd, {}) := rfl
  rw [Ast.anchored, Ast.regex?, before]
  show (Ast.regex? {} (.seq _ _) >>= _) = _
  rw [Ast.regex?, group]
  cases tree.regex? {} with
  | none => rfl
  | some result =>
    simp only [Option.map_some, Option.bind_eq_bind, Option.bind_some, behind]
    rfl

/-- The conditions at both ends take a state each. -/
lemma weight_anchored (regex : Regex) : regex.anchored.weight = regex.weight + 2 := by
  show 1 + (regex.weight + 1) = regex.weight + 2
  omega

/-- The tree of a pattern that is not nested too deep. -/
lemma parse_eq_some_iff {pattern : List Char} {tree : Ast} :
    Ast.parse pattern = some tree ↔
      tree? pattern = some tree ∧ tree.depth false false ≤ nestLimit := by
  constructor
  · intro parsed
    obtain ⟨_, read, parsed⟩ := Option.bind_eq_some_iff.1 parsed
    split at parsed
    · rename_i shallow
      cases parsed
      exact ⟨read, shallow⟩
    · cases parsed
  · rintro ⟨read, shallow⟩
    exact Option.bind_eq_some_iff.2 ⟨tree, read, if_pos shallow⟩

/-- A pattern compiles to the expression of its tree, if that is within the limits. -/
lemma compile_eq_some_iff {pattern : String} {regex : Regex} :
    Regex.compile pattern = some regex ↔
      ∃ tree flags, tree? pattern.toList = some tree ∧ tree.depth false false ≤ nestLimit ∧
        tree.regex? {} = some (regex, flags) ∧ regex.weight ≤ weightLimit := by
  constructor
  · intro compiled
    obtain ⟨tree, parsed, compiled⟩ := Option.bind_eq_some_iff.1 compiled
    obtain ⟨read, shallow⟩ := parse_eq_some_iff.1 parsed
    obtain ⟨⟨_, flags⟩, meaning, compiled⟩ := Option.bind_eq_some_iff.1 compiled
    dsimp only at compiled
    split at compiled
    · rename_i light
      cases compiled
      exact ⟨tree, flags, read, shallow, meaning, light⟩
    · cases compiled
  · rintro ⟨tree, flags, read, shallow, meaning, light⟩
    refine Option.bind_eq_some_iff.2 ⟨tree, parse_eq_some_iff.2 ⟨read, shallow⟩, ?_⟩
    exact Option.bind_eq_some_iff.2 ⟨(regex, flags), meaning, if_pos light⟩

/-- A pattern that closes a group which it has not opened has no tree. -/
lemma tree?_of_parenthesis {pattern : List Char} (comes : ComesToParenthesis .start pattern) :
    tree? pattern = none :=
  readPattern_of_parenthesis comes (Nat.lt_succ_self _)

/-- What becomes of the tree of a pattern when the pattern is anchored. -/
inductive AnchoredTree (pattern : String) : Prop where
  /-- There is no tree either way. -/
  | refused :
    tree? pattern.toList = none →
    tree? (anchored pattern).toList = none →
    AnchoredTree pattern
  /-- A parenthesis of the pattern closes the group that it is put into. -/
  | outside :
    ComesToParenthesis .start pattern.toList →
    AnchoredTree pattern
  /-- A comment at the end of the pattern swallows what is put behind it. -/
  | swallowed (tree : Ast) :
    tree? pattern.toList = some tree →
    tree? (pattern ++ ")$").toList = some tree →
    tree? (anchored pattern).toList = none →
    AnchoredTree pattern
  /-- The tree is put between conditions for both ends. -/
  | kept (tree : Ast) :
    tree? pattern.toList = some tree →
    tree? (pattern ++ ")$").toList = none →
    tree? (anchored pattern).toList = some tree.anchored →
    AnchoredTree pattern

/-- An anchored pattern has the tree of the pattern between conditions for both ends, but for
patterns that close too many groups or swallow their end. -/
theorem anchoredTree (pattern : String) : AnchoredTree pattern := by
  have length : (pattern.toList ++ closing).length = pattern.toList.length + 2 := List.length_append
  have spelled : (anchored pattern).toList =
      '^' :: '(' :: '?' :: ':' :: (pattern.toList ++ closing) := by
    rw [anchored, String.toList_append, String.toList_append]
    rfl
  have behind : tree? (pattern ++ ")$").toList =
      readPattern (pattern.toList.length + 5) (SyntaxState.start.within [])
        (pattern.toList ++ closing) := by
    rw [String.toList_append]
    exact readPattern_fuel (Nat.lt_succ_self _) (show (pattern.toList ++ closing).length < _ by omega)
  have around : tree? (anchored pattern).toList =
      readPattern (pattern.toList.length + 5) (SyntaxState.start.within [opening])
        (pattern.toList ++ closing) := by
    rw [spelled, ← readPattern_opening]
    refine readPattern_fuel (Nat.lt_succ_self _) ?_
    rw [List.length_cons, List.length_cons, List.length_cons, List.length_cons, length]
    omega
  have isOpen : [opening] ≠ [] := List.cons_ne_nil _ _
  cases spliced (Onward.append pattern.toList) (Nat.lt_succ_self pattern.toList.length)
    (show (pattern.toList ++ closing).length < pattern.toList.length + 5 by omega) with
  | refused fails fails' => exact .refused fails (around.trans (fails' _ isOpen))
  | outside comes => exact .outside comes
  | swallowed final closed reads reads' =>
    refine .swallowed _ reads ?_ ?_
    · rw [behind, reads', finish?_eq_some ((List.append_nil _).trans closed)]
      rfl
    · rw [around, reads', finish?_within isOpen]
  | kept final left closed reads reads' =>
    refine .kept _ reads ?_ ?_
    · rw [behind, reads', readPattern_closing_alone closed]
    · rw [around, reads', readPattern_closing closed]

end DexTriage.Pattern
