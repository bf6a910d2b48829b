import DexTriage.Pattern.Ast
import DexTriage.Unicode.Class

/-!
# Escapes in patterns

Reading what stands behind a backslash. In verbose mode white space and comments, which start with
`#` and end with the line, are skipped also within an escape.
-/

namespace DexTriage.Pattern

open DexTriage.Unicode

/-- What is left of a text behind white space and comments. -/
def skipVerbose : (inComment : Bool) → List Char → List Char
  | _, [] => []
  | true, c :: text => skipVerbose (c ≠ '\n') text
  | false, c :: text =>
    if isBlank c then skipVerbose false text
    else if c = '#' then skipVerbose true text
    else c :: text

/-- What is left of a text behind what the mode skips. -/
def skip (verbose : Bool) (text : List Char) : List Char :=
  if verbose then skipVerbose false text else text

/-- The first `count` characters that the mode does not skip, and what is left behind them. -/
def significant (verbose : Bool) : (inComment : Bool) → (count : Nat) → List Char →
    Option (List Char × List Char)
  | _, 0, text => some ([], text)
  | _, _ + 1, [] => none
  | true, count, c :: text => significant verbose (c ≠ '\n') count text
  | false, count + 1, c :: text =>
    if verbose && isBlank c then significant verbose false (count + 1) text
    else if verbose && c = '#' then significant verbose true (count + 1) text
    else (significant verbose false count text).map fun (taken, rest) => (c :: taken, rest)

/-- The characters up to a closing brace that the mode does not skip, and what is left behind the
brace. -/
def braced (verbose : Bool) : (inComment : Bool) → List Char → Option (List Char × List Char)
  | _, [] => none
  | true, c :: text => braced verbose (c ≠ '\n') text
  | false, c :: text =>
    if verbose && isBlank c then braced verbose false text
    else if verbose && c = '#' then braced verbose true text
    else if c = '\x7d' then some ([], text)
    else (braced verbose false text).map fun (taken, rest) => (c :: taken, rest)

/-- The value of a hexadecimal digit. -/
def hexValue? (c : Char) : Option Nat :=
  if c.isDigit then some (c.toNat - 48)
  else if 'a' ≤ c ∧ c ≤ 'f' then some (c.toNat - 87)
  else if 'A' ≤ c ∧ c ≤ 'F' then some (c.toNat - 55)
  else none

/-- The character whose code point is written in hexadecimal digits, of which there is at least
one. -/
def hexChar? (digits : List Char) : Option Char := do
  let values ← digits.mapM hexValue?
  let code := values.foldl (fun n v => 16 * n + v) 0
  if values.isEmpty then none
  else if code < 0xD800 ∨ (0xE000 ≤ code ∧ code < 0x110000) then some (Char.ofNat code)
  else none

/-- The literal that `count` digits, or any number of them in braces, stand for. -/
def hexEscape (verbose : Bool) (count : Nat) (text : List Char) : Option (Primitive × List Char) :=
  match skip verbose text with
  | '\x7b' :: text => do
    let (digits, rest) ← braced verbose false text
    return (.literal ⟨← hexChar? digits, false⟩, rest)
  | text => do
    let (digits, rest) ← significant verbose false count text
    return (.literal ⟨← hexChar? digits, count == 2⟩, rest)

/-- The part of a text before the first occurrence of another one, and the part behind it. -/
def splitAt? (mark : List Char) : List Char → Option (List Char × List Char)
  | [] => none
  | c :: text =>
    if mark.isPrefixOf (c :: text) then some ([], (c :: text).drop mark.length)
    else (splitAt? mark text).map fun (before, behind) => (c :: before, behind)

/-- The question that the text between the braces of a property asks, and whether it asks for the
characters that do not fit, which it does by the sign `!=`. -/
def PropertyQuery.ofChars (text : List Char) : PropertyQuery × Bool :=
  match splitAt? ['!', '='] text with
  | some (property, value) => (valued (String.ofList property) (String.ofList value), true)
  | none =>
    match (splitAt? [':'] text).or (splitAt? ['='] text) with
    | some (property, value) => (valued (String.ofList property) (String.ofList value), false)
    | none => (named (String.ofList text), false)

/-- The property that is named by a letter, or in braces. -/
def propertyEscape (verbose negated : Bool) (text : List Char) :
    Option (Primitive × List Char) :=
  match skip verbose text with
  | [] => none
  | '\x7b' :: text => do
    let (name, rest) ← braced verbose false text
    let (query, unequal) := PropertyQuery.ofChars name
    return (.property query (negated != unequal), rest)
  | '\\' :: _ => none
  | c :: text => some (.property (.named (String.singleton c)) negated, text)

/-- The conditions that are written as a name in braces. -/
def namedBoundary? : String → Option Assertion
  | "start" => some .wordStart
  | "end" => some .wordEnd
  | "start-half" => some .wordStartHalf
  | "end-half" => some .wordEndHalf
  | _ => none

/-- The word boundary behind `\b`. A brace goes with it only if a letter or a dash follows; it
belongs to a repetition otherwise. -/
def boundaryEscape (verbose : Bool) (text : List Char) : Option (Primitive × List Char) :=
  match text with
  | '\x7b' :: inner =>
    match skip verbose inner with
    | [] => none
    | c :: _ =>
      if c.isAlpha || c = '-' then do
        let (name, rest) ← braced verbose false inner
        return (.assertion (← namedBoundary? (String.ofList name)), rest)
      else
        some (.assertion .wordBoundary, text)
  | _ => some (.assertion .wordBoundary, text)

/-- Whether a backslash makes a character stand for itself: any ASCII character except letters,
digits and angle brackets. -/
def isEscapable (c : Char) : Bool :=
  c.toNat < 128 && !(c.isAlphanum || c = '<' || c = '>')

/-- What a backslash and the text behind it stand for, and what is left. -/
def escape (verbose : Bool) : List Char → Option (Primitive × List Char)
  | [] => none
  | c :: text =>
    let control (code : Nat) := some (Primitive.literal ⟨Char.ofNat code, false⟩, text)
    if isEscapable c then some (.literal ⟨c, false⟩, text)
    else
      match c with
      | 'x' => hexEscape verbose 2 text
      | 'u' => hexEscape verbose 4 text
      | 'U' => hexEscape verbose 8 text
      | 'p' => propertyEscape verbose false text
      | 'P' => propertyEscape verbose true text
      | 'd' => some (.letterClass .digit false, text)
      | 'D' => some (.letterClass .digit true, text)
      | 's' => some (.letterClass .space false, text)
      | 'S' => some (.letterClass .space true, text)
      | 'w' => some (.letterClass .word false, text)
      | 'W' => some (.letterClass .word true, text)
      | 'a' => control 0x07
      | 'f' => control 0x0C
      | 't' => control 0x09
      | 'n' => control 0x0A
      | 'r' => control 0x0D
      | 'v' => control 0x0B
      | 'A' => some (.assertion .textStart, text)
      | 'z' => some (.assertion .textEnd, text)
      | 'b' => boundaryEscape verbose text
      | 'B' => some (.assertion .notWordBoundary, text)
      | '<' => some (.assertion .wordStart, text)
      | '>' => some (.assertion .wordEnd, text)
      | _ => none

end DexTriage.Pattern
