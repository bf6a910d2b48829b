import DexTriage.Pattern.Escape

/-!
# Classes in brackets

Reading a class from behind its opening bracket. Classes nest, and items combine by union, which
needs no sign, or by the signs for intersection, difference and symmetric difference, which all
bind alike and to the left. What is still open is kept on a stack.
-/

namespace DexTriage.Pattern

open DexTriage.Unicode

/-- A sign that combines two parts of a class. -/
inductive SetSign where
  | inter
  | diff
  | symmDiff
  deriving DecidableEq, Repr

/-- The item that a sign makes of two. -/
def SetSign.apply : SetSign → SetItem → SetItem → SetItem
  | inter => .inter
  | diff => .diff
  | symmDiff => .symmDiff

/-- What waits for the part of a class that is being read. -/
inductive SetFrame where
  /-- An open bracket, with the items before it, the last one first. -/
  | opened (before : List SetItem) (negated : Bool)
  /-- A sign and what stands to the left of it. -/
  | sign (left : SetItem) (sign : SetSign)

/-- The classes of ASCII characters with a name. -/
def asciiClass? : String → Option Ranges
  | "alnum" => some [(48, 57), (65, 90), (97, 122)]
  | "alpha" => some [(65, 90), (97, 122)]
  | "ascii" => some [(0, 127)]
  | "blank" => some [(9, 9), (32, 32)]
  | "cntrl" => some [(0, 31), (127, 127)]
  | "digit" => some [(48, 57)]
  | "graph" => some [(33, 126)]
  | "lower" => some [(97, 122)]
  | "print" => some [(32, 126)]
  | "punct" => some [(33, 47), (58, 64), (91, 96), (123, 126)]
  | "space" => some [(9, 13), (32, 32)]
  | "upper" => some [(65, 90)]
  | "word" => some [(48, 57), (65, 90), (95, 95), (97, 122)]
  | "xdigit" => some [(48, 57), (65, 70), (97, 102)]
  | _ => none

/-- The named class of ASCII characters that starts behind an opening bracket, if one does. -/
def namedClass? (text : List Char) : Option (SetItem × List Char) :=
  match text with
  | ':' :: text =>
    let (negated, text) := match text with
      | '^' :: text => (true, text)
      | text => (false, text)
    match text.dropWhile (· ≠ ':') with
    | ':' :: ']' :: rest => do
      let ranges ← asciiClass? (String.ofList (text.takeWhile (· ≠ ':')))
      return (.ascii ranges negated, rest)
    | _ => none
  | _ => none

/-- The number of dashes that a text starts with, and what is left behind them. -/
def leadingDashes (verbose : Bool) : (inComment : Bool) → List Char → Nat × List Char
  | _, [] => (0, [])
  | true, c :: text => leadingDashes verbose (c ≠ '\n') text
  | false, c :: text =>
    if verbose && isBlank c then leadingDashes verbose false text
    else if verbose && c = '#' then leadingDashes verbose true text
    else if c = '-' then
      let (count, rest) := leadingDashes verbose false text
      (count + 1, rest)
    else (0, c :: text)

/-- Whether a class is negated, and what is left of a text from behind its opening bracket. -/
def readNegation (verbose : Bool) (text : List Char) : Bool × List Char :=
  match skip verbose text with
  | '^' :: text => (true, text)
  | text => (false, text)

/-- The characters at the start of a class that stand for themselves only there: dashes, or a
closing bracket. The last one comes first. -/
def readLeading (verbose : Bool) (text : List Char) : List SetItem × List Char :=
  match leadingDashes verbose false text with
  | (0, ']' :: text) => ([.literal ⟨']', false⟩], text)
  | (count, text) => (List.replicate count (.literal ⟨'-', false⟩), text)

/-- The next character behind a dash, as far as it decides whether the dash makes a range. In
verbose mode white space and one sign of a comment are passed over. -/
def peekVerbose : (seenSign : Bool) → List Char → Option Char
  | _, [] => none
  | seenSign, c :: text =>
    if isBlank c then peekVerbose seenSign text
    else if c = '#' && !seenSign then peekVerbose true text
    else some c

/-- The character that decides whether a dash before a text makes a range. -/
def peek (verbose : Bool) (text : List Char) : Option Char :=
  if verbose then (peekVerbose false text).or text.head? else text.head?

/-- A plain character or an escape within a class. -/
def setPrimitive (verbose : Bool) : List Char → Option (Primitive × List Char)
  | [] => none
  | '\\' :: text => escape verbose text
  | c :: text => some (.literal ⟨c, false⟩, text)

/-- The item that a primitive stands for; a condition is none. -/
def Primitive.setItem? : Primitive → Option SetItem
  | literal l => some (.literal l)
  | letterClass kind negated => some (.letterClass kind negated)
  | property query negated => some (.property query negated)
  | assertion _ => none

/-- The range between two primitives, if both are literals in the right order. -/
def rangeItem? : Primitive → Primitive → Option SetItem
  | .literal first, .literal last =>
    if first.char.toNat ≤ last.char.toNat then some (.range first last) else none
  | _, _ => none

/-- A single item or a range, and what is left behind it. -/
def setRange (verbose : Bool) (text : List Char) : Option (SetItem × List Char) := do
  let (first, text) ← setPrimitive verbose text
  match skip verbose text with
  | [] => none
  | '-' :: behind =>
    match peek verbose behind with
    | some ']' | some '-' => return (← first.setItem?, '-' :: behind)
    | _ =>
      let (last, text) ← setPrimitive verbose (skip verbose behind)
      return (← rangeItem? first last, text)
  | text => return (← first.setItem?, text)

/-- Combines an item with the sign that waits for it. -/
def closeSign (item : SetItem) : List SetFrame → SetItem × List SetFrame
  | .sign left sign :: frames => (sign.apply left item, frames)
  | frames => (item, frames)

/-- What reading a class has come to. -/
inductive SetState where
  /-- Brackets are open; the items read since the last bracket or sign, the last one first. -/
  | reading (frames : List SetFrame) (items : List SetItem)
  /-- The outermost bracket has been closed. -/
  | closed (negated : Bool) (inner : SetItem)

/-- Opens a bracket. -/
def openBracket (verbose : Bool) (frames : List SetFrame) (items : List SetItem)
    (text : List Char) : SetState × List Char :=
  let (negated, text) := readNegation verbose text
  let (leading, text) := readLeading verbose text
  (.reading (.opened items negated :: frames) leading, text)

/-- Closes a bracket. -/
def closeBracket (frames : List SetFrame) (items : List SetItem) : Option SetState :=
  match closeSign (.ofList items.reverse) frames with
  | (inner, [.opened _ negated]) => some (.closed negated inner)
  | (inner, .opened before negated :: frames) =>
    some (.reading frames (.bracket negated inner :: before))
  | _ => none

/-- Puts a sign behind the items read so far. -/
def pushSign (sign : SetSign) (frames : List SetFrame) (items : List SetItem) : SetState :=
  let (left, frames) := closeSign (.ofList items.reverse) frames
  .reading (.sign left sign :: frames) []

/-- Takes in the next part of an open class, of which the mode skips nothing. -/
def setStep (verbose : Bool) (frames : List SetFrame) (items : List SetItem) :
    List Char → Option (SetState × List Char)
  | [] => none
  | '[' :: text =>
    match namedClass? text with
    | some (item, rest) => some (.reading frames (item :: items), rest)
    | none => some (openBracket verbose frames items text)
  | ']' :: text => (closeBracket frames items).map (·, text)
  | '&' :: '&' :: text => some (pushSign .inter frames items, text)
  | '-' :: '-' :: text => some (pushSign .diff frames items, text)
  | '~' :: '~' :: text => some (pushSign .symmDiff frames items, text)
  | text => (setRange verbose text).map fun (item, rest) => (.reading frames (item :: items), rest)

/-- Reads on until the outermost bracket is closed, in at most `fuel` steps. -/
def readSet (verbose : Bool) : (fuel : Nat) → SetState → List Char →
    Option (Bool × SetItem × List Char)
  | _, .closed negated inner, text => some (negated, inner, text)
  | 0, .reading _ _, _ => none
  | fuel + 1, .reading frames items, text => do
    let (state, rest) ← setStep verbose frames items (skip verbose text)
    readSet verbose fuel state rest

/-- The class whose opening bracket stands before a text: whether it is negated, what is in it, and
what is left behind it. Every step takes in at least one character, so that as many steps as there
are characters are enough. -/
def bracketClass (verbose : Bool) (text : List Char) : Option (Bool × SetItem × List Char) :=
  let (state, rest) := openBracket verbose [] [] text
  readSet verbose (text.length + 1) state rest

end DexTriage.Pattern
