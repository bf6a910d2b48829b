import DexTriage.Pattern.Property
import DexTriage.Pattern.Regex
import DexTriage.Pattern.Syntax

/-!
# From patterns to expressions

The expression that a syntax tree stands for under the flags in force. Without the Unicode flag a
class may hold ASCII characters only, so that nothing outside a class can be let in by a
complement; a pattern that asks for more is refused.
-/

namespace DexTriage.Pattern

/-- The flags that bear on what a pattern matches. -/
structure Flags where
  ignoreCase : Bool := false
  multiLine : Bool := false
  dotAll : Bool := false
  anyLineEnd : Bool := false
  unicode : Bool := true
  deriving DecidableEq, Repr

namespace Flags

/-- The flags after a change. -/
def apply (flags : Flags) (change : FlagChange) : Flags where
  ignoreCase := change.get .ignoreCase flags.ignoreCase
  multiLine := change.get .multiLine flags.multiLine
  dotAll := change.get .dotAll flags.dotAll
  anyLineEnd := change.get .anyLineEnd flags.anyLineEnd
  unicode := change.get .unicode flags.unicode

/-- A set, closed under differences in case if the flags say so. -/
def fold (flags : Flags) (set : CharSet) : CharSet :=
  if !flags.ignoreCase then set
  else if flags.unicode then .folded set
  else .asciiFolded set

/-- A set or its complement; the complement needs the Unicode flag. -/
def negate? (flags : Flags) (negated : Bool) (set : CharSet) : Option CharSet :=
  if !negated then some set
  else if flags.unicode then some (.compl set)
  else none

/-- The character of a literal within a class. -/
def classChar? (flags : Flags) (literal : Literal) : Option Char :=
  if flags.unicode || literal.char.toNat < 128 then some literal.char else none

end Flags

/-- The set of a class with a letter of its own. -/
def letterSet? (flags : Flags) (kind : LetterClass) (negated : Bool) : Option CharSet :=
  flags.negate? negated (if flags.unicode then kind.set else kind.asciiSet)

/-- The set of a property, which needs the Unicode flag. -/
def propertySet? (flags : Flags) (query : PropertyQuery) (negated : Bool) : Option CharSet :=
  if flags.unicode then do
    flags.negate? negated (flags.fold (← query.set?))
  else
    none

/-- The set of an item of a class. -/
def SetItem.set? (flags : Flags) : SetItem → Option CharSet
  | empty => some .empty
  | literal l => (flags.classChar? l).map CharSet.single
  | range first last => do
    return .range (← flags.classChar? first) (← flags.classChar? last)
  | ascii ranges negated => flags.negate? negated (flags.fold (.ranges ranges))
  | letterClass kind negated => letterSet? flags kind negated
  | property query negated => propertySet? flags query negated
  | bracket negated inner => do flags.negate? negated (flags.fold (← inner.set? flags))
  | union left right => do return .union (← left.set? flags) (← right.set? flags)
  | inter left right => do
    return .inter (flags.fold (← left.set? flags)) (flags.fold (← right.set? flags))
  | diff left right => do
    return .diff (flags.fold (← left.set? flags)) (flags.fold (← right.set? flags))
  | symmDiff left right => do
    return .symmDiff (flags.fold (← left.set? flags)) (flags.fold (← right.set? flags))

/-- The condition that an assertion stands for. -/
def Assertion.look (flags : Flags) : Assertion → Look
  | lineStart =>
    if !flags.multiLine then .textStart else if flags.anyLineEnd then .anyLineStart else .lineStart
  | lineEnd =>
    if !flags.multiLine then .textEnd else if flags.anyLineEnd then .anyLineEnd else .lineEnd
  | textStart => .textStart
  | textEnd => .textEnd
  | wordBoundary => .wordBoundary flags.unicode
  | notWordBoundary => .notWordBoundary flags.unicode
  | wordStart => .wordStart flags.unicode
  | wordEnd => .wordEnd flags.unicode
  | wordStartHalf => .wordStartHalf flags.unicode
  | wordEndHalf => .wordEndHalf flags.unicode

/-- The set that a dot stands for; it needs the Unicode flag. -/
def dotSet? (flags : Flags) : Option CharSet :=
  if !flags.unicode then none
  else if flags.dotAll then some .any
  else if flags.anyLineEnd then some (.compl (.ranges [(10, 10), (13, 13)]))
  else some (.compl (.ranges [(10, 10)]))

/-- The expression of a primitive. A literal that is written as a byte beyond ASCII needs the
Unicode flag. -/
def Primitive.regex? (flags : Flags) : Primitive → Option Regex
  | literal l =>
    if !flags.unicode && l.isByte && 128 ≤ l.char.toNat then none
    else some (.set (flags.fold (.single l.char)))
  | assertion a => some (.look (a.look flags))
  | letterClass kind negated => (letterSet? flags kind negated).map Regex.set
  | property query negated => (propertySet? flags query negated).map Regex.set

/-- The expression of a tree, and the flags in force behind it. -/
def Ast.regex? (flags : Flags) : Ast → Option (Regex × Flags)
  | empty => some (.empty, flags)
  | .flags change => some (.empty, flags.apply change)
  | dot => (dotSet? flags).map (.set ·, flags)
  | primitive p => (p.regex? flags).map (·, flags)
  | bracket negated inner => do
    return (.set (← flags.negate? negated (flags.fold (← inner.set? flags))), flags)
  | repetition body least most => do
    let (r, flags) ← body.regex? flags
    return (.repetition r least most, flags)
  | group change body => do
    let (r, _) ← body.regex? (flags.apply change)
    return (r, flags)
  | seq first rest => do
    let (r, flags) ← first.regex? flags
    let (s, flags) ← rest.regex? flags
    return (.seq r s, flags)
  | alt first rest => do
    let (r, flags) ← first.regex? flags
    let (s, flags) ← rest.regex? flags
    return (.alt r s, flags)

/-- The heaviest expression that is accepted: its states take ten mebibytes, 32 bytes each. -/
def weightLimit : Nat := (10 <<< 20) / 32

/-- The expression of a pattern, unless the pattern is ill-formed or too heavy. -/
def Regex.compile (pattern : String) : Option Regex := do
  let ast ← Ast.parse pattern.toList
  let (regex, _) ← ast.regex? {}
  if regex.weight ≤ weightLimit then return regex else none

/-- A pattern between signs for the start and the end of the text. -/
def anchored (pattern : String) : String :=
  "^(?:" ++ pattern ++ ")$"

end DexTriage.Pattern
