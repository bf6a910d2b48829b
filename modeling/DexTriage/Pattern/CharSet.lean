import DexTriage.Unicode.Fold
import DexTriage.Unicode.Ranges

/-!
# Sets of characters

A set is kept as the expression that describes it, and a character is looked up by following the
expression; no complement or intersection is ever computed as a list of ranges.
-/

namespace DexTriage.Pattern

open DexTriage.Unicode

/-- An expression that describes a set of code points. -/
inductive CharSet where
  /-- The code points of some ranges. -/
  | ranges (ranges : Ranges)
  /-- The code points of either set. -/
  | union (left right : CharSet)
  /-- The code points of both sets. -/
  | inter (left right : CharSet)
  /-- The code points of the left set that are not in the right one. -/
  | diff (left right : CharSet)
  /-- The code points of exactly one of the sets. -/
  | symmDiff (left right : CharSet)
  /-- The code points that are not in the set. -/
  | compl (set : CharSet)
  /-- The code points that differ in case only from one in the set. -/
  | folded (set : CharSet)
  /-- The code points in the set, and the ASCII letters that differ in case only from one in it. -/
  | asciiFolded (set : CharSet)
  deriving DecidableEq, Repr

/-- A code point and, for an ASCII letter, the same letter in the other case. -/
def asciiOrbit (n : Nat) : List Nat :=
  if 65 ≤ n ∧ n ≤ 90 then [n, n + 32]
  else if 97 ≤ n ∧ n ≤ 122 then [n, n - 32]
  else [n]

namespace CharSet

/-- The set without characters. -/
def empty : CharSet := .ranges []

/-- The set of all characters. -/
def any : CharSet := .ranges [(0, 0x10FFFF)]

/-- The set of the characters from one to another. -/
def range (first last : Char) : CharSet := .ranges [(first.toNat, last.toNat)]

/-- The set of one character. -/
def single (c : Char) : CharSet := range c c

/-- Whether a code point is in the set. -/
def contains : CharSet → Nat → Bool
  | ranges rs, n => rs.contains n
  | union a b, n => a.contains n || b.contains n
  | inter a b, n => a.contains n && b.contains n
  | diff a b, n => a.contains n && !b.contains n
  | symmDiff a b, n => a.contains n != b.contains n
  | compl a, n => !a.contains n
  | folded a, n => (orbit n).any a.contains
  | asciiFolded a, n => (asciiOrbit n).any a.contains

/-- How many ranges beyond ASCII the set consists of at least, as far as its description shows. -/
def wideRanges : CharSet → Nat
  | ranges rs => rs.countP fun (_, last) => 128 ≤ last
  | compl a => a.wideRanges - 1
  | _ => 0

end CharSet

end DexTriage.Pattern
