/-!
# Sets of code points as ranges

A property of Unicode is a list of ranges in rising order. Ranges of a large property are kept as
text, `41-5A 61-7A` and so on, and read when they are asked for.
-/

namespace DexTriage.Unicode

/-- Ranges of code points, ends included, in rising order and apart from each other. -/
abbrev Ranges := List (Nat × Nat)

namespace Ranges

/-- Whether a code point lies in one of the ranges. -/
def contains : Ranges → Nat → Bool
  | [], _ => false
  | (first, last) :: ranges, n =>
    if n < first then false else n ≤ last || contains ranges n

/-- The value of an upper-case hexadecimal digit. -/
def digitValue (c : Char) : Nat :=
  if c.isDigit then c.toNat - 48 else c.toNat - 55

/-- Adds the range whose last end has been read, if there is one. -/
def addEnd (done : Ranges) (first : Option Nat) : (last : Option Nat) → Ranges
  | none => done
  | some last => (first.getD last, last) :: done

/-- Reads on after the ranges `done`, in reverse order, and the ends of the next one as far as they
have been read. -/
def ofChars : List Char → (done : Ranges) → (first last : Option Nat) → Ranges
  | [], done, first, last => (addEnd done first last).reverse
  | c :: text, done, first, last =>
    if c.isWhitespace then ofChars text (addEnd done first last) none none
    else if c = '-' then ofChars text done last none
    else ofChars text done first (some (16 * last.getD 0 + digitValue c))

/-- The ranges that a text lists: hexadecimal code points, alone or as both ends of a range,
separated by white space. -/
def ofText (text : String) : Ranges :=
  ofChars text.toList [] none none

end Ranges

/-- Ranges that are asked for by name; the text is read when they are. -/
structure NamedRanges where
  names : List String
  text : String

/-- The ranges with the given name. -/
def NamedRanges.find? (table : List NamedRanges) (name : String) : Option Ranges :=
  (table.find? fun entry => entry.names.contains name).map fun entry => Ranges.ofText entry.text

end DexTriage.Unicode
