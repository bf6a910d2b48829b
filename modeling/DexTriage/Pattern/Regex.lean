import DexTriage.Pattern.CharSet
import DexTriage.Pattern.Positions
import DexTriage.Unicode.Class

/-!
# Regular expressions and their matches

A text of `n` characters has `n + 1` positions, and an expression takes a position to the positions
where a match from there may end. `Regex.run` does that for a whole set of positions at once, so
that no position is followed twice on the way through an expression.
-/

namespace DexTriage.Pattern

open DexTriage.Unicode

/-- A condition on the characters before and behind a position. -/
inductive Look where
  | textStart
  | textEnd
  | lineStart
  | lineEnd
  /-- At the start of a line that ends with a carriage return, a line feed or both. -/
  | anyLineStart
  /-- At the end of a line that ends with a carriage return, a line feed or both. -/
  | anyLineEnd
  | wordBoundary (unicode : Bool)
  | notWordBoundary (unicode : Bool)
  | wordStart (unicode : Bool)
  | wordEnd (unicode : Bool)
  /-- No word character before. -/
  | wordStartHalf (unicode : Bool)
  /-- No word character behind. -/
  | wordEndHalf (unicode : Bool)
  deriving DecidableEq, Repr

namespace Look

/-- Whether there is a word character. -/
def isWordAt (unicode : Bool) : Option Char → Bool
  | none => false
  | some c => if unicode then isWord c else isAsciiWord c

/-- Whether the condition holds between two characters, either of which may be missing. -/
def holds (before behind : Option Char) : Look → Bool
  | textStart => before.isNone
  | textEnd => behind.isNone
  | lineStart => before.isNone || before == some '\n'
  | lineEnd => behind.isNone || behind == some '\n'
  | anyLineStart =>
    before.isNone || before == some '\n' || (before == some '\r' && behind != some '\n')
  | anyLineEnd =>
    behind.isNone || behind == some '\r' || (behind == some '\n' && before != some '\r')
  | wordBoundary u => isWordAt u before != isWordAt u behind
  | notWordBoundary u => isWordAt u before == isWordAt u behind
  | wordStart u => !isWordAt u before && isWordAt u behind
  | wordEnd u => isWordAt u before && !isWordAt u behind
  | wordStartHalf u => !isWordAt u before
  | wordEndHalf u => !isWordAt u behind

end Look

/-- A regular expression. -/
inductive Regex where
  /-- The empty text. -/
  | empty
  /-- One character of a set. -/
  | set (set : CharSet)
  /-- The empty text where a condition holds. -/
  | look (look : Look)
  /-- One match directly behind the other. -/
  | seq (first second : Regex)
  /-- A match of either. -/
  | alt (left right : Regex)
  /-- At least `least` matches in a row, and at most as many as `most` says, if it says so. -/
  | repeated (body : Regex) (least : Nat) (most : Option Nat)
  deriving DecidableEq, Repr

/-- Applies `f` a number of times, but stops when nothing is left. -/
def repeatExactly (f : Positions → Positions) : (count : Nat) → Positions → Positions
  | 0, positions => positions
  | count + 1, positions => if positions.isEmpty then [] else repeatExactly f count (f positions)

/-- Adds to `reached` what up to `rounds` applications of `f` reach from `fresh`. What has been
reached before is not followed again. -/
def spread (f : Positions → Positions) : (rounds : Nat) → (reached fresh : Positions) → Positions
  | 0, reached, _ => reached
  | rounds + 1, reached, fresh =>
    match (f fresh).minus reached with
    | [] => reached
    | new => spread f rounds (new.union reached) new

/-- Whether a condition holds at a position in a text. -/
def Look.holdsAt (look : Look) (text : Array Char) (position : Nat) : Bool :=
  look.holds (if position = 0 then none else text[position - 1]?) text[position]?

/-- Whether there is a character of a set behind a position in a text. -/
def CharSet.holdsAt (set : CharSet) (text : Array Char) (position : Nat) : Bool :=
  match text[position]? with
  | some c => set.contains c.toNat
  | none => false

/-- The positions where a match from one of the given positions may end. -/
def Regex.run (text : Array Char) : Regex → Positions → Positions
  | empty, positions => positions
  | set s, positions => (positions.filter (s.holdsAt text)).map (· + 1)
  | look l, positions => positions.filter (l.holdsAt text)
  | seq a b, positions => run text b (run text a positions)
  | alt a b, positions => (run text a positions).union (run text b positions)
  | repeated a least most, positions =>
    let start := repeatExactly (run text a) least positions
    -- a chain of matches that visits no position twice has at most as many as there are characters
    let rounds := match most with
      | some most => min (most - least) text.size
      | none => text.size
    spread (run text a) rounds start start

/-- Whether an expression matches anywhere in a text. -/
def Regex.isMatch (regex : Regex) (text : String) : Bool :=
  let chars := text.toList.toArray
  !(regex.run chars (.upTo chars.size)).isEmpty

namespace Regex

/-- Whether an expression matches nothing but the empty text. -/
def onlyEmpty : Regex → Bool
  | empty | look _ => true
  | set _ => false
  | seq a b | alt a b => a.onlyEmpty && b.onlyEmpty
  | repeated a _ _ => a.onlyEmpty

/-- A repetition in its plainest form. To repeat the empty text more than once is pointless. -/
def repetition (body : Regex) (least : Nat) (most : Option Nat) : Regex :=
  let (least, most) :=
    if body.onlyEmpty then (min least 1, some (min (most.getD 1) 1)) else (least, most)
  if most = some 0 then empty
  else if least = 1 ∧ most = some 1 then body
  else repeated body least most

/-- How many states an automaton for the expression has at least. Alternatives may have states in
common, and every range beyond ASCII takes one of its own. -/
def weight : Regex → Nat
  | empty => 0
  | set s => max s.wideRanges 1
  | look _ => 1
  | seq a b => a.weight + b.weight
  | alt a b => max a.weight b.weight
  | repeated a least most => most.getD (max least 1) * a.weight

end Regex

end DexTriage.Pattern
