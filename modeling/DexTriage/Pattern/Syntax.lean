import DexTriage.Pattern.Bracket
import DexTriage.Unicode.Category
import DexTriage.Unicode.Property

/-!
# The syntax of patterns

Reading a pattern from left to right, one part at a time: a character or class, a sign of
repetition, the start or the end of a group, a bar. Groups that are still open wait on a stack, so
that what stands between the parentheses of a group is read exactly as it is on its own.
-/

namespace DexTriage.Pattern

open DexTriage.Unicode

/-- What has been read of a group: its finished alternatives, and the parts of the one that is
being read, each with the last one first. -/
structure Level where
  alternatives : List Ast
  items : List Ast
  deriving Inhabited

namespace Level

/-- Nothing read yet. -/
def start : Level := ⟨[], []⟩

/-- Adds a part. -/
def push (level : Level) (item : Ast) : Level := { level with items := item :: level.items }

/-- Starts the next alternative. -/
def bar (level : Level) : Level :=
  ⟨Ast.sequence level.items.reverse :: level.alternatives, []⟩

/-- The tree of everything that has been read. -/
def close (level : Level) : Ast :=
  Ast.choice level.bar.alternatives.reverse

end Level

/-- A group that is still open, with what stands before it and the mode to go back to. -/
structure OpenGroup where
  before : Level
  change : FlagChange
  verbose : Bool

/-- What reading a pattern has come to. -/
structure SyntaxState where
  level : Level
  groups : List OpenGroup
  verbose : Bool
  /-- The names of groups that have been given. -/
  names : List String

namespace SyntaxState

/-- The state before the first character. -/
def start : SyntaxState := ⟨.start, [], false, []⟩

/-- Adds a part to the innermost group. -/
def push (state : SyntaxState) (item : Ast) : SyntaxState :=
  { state with level := state.level.push item }

/-- The tree of a whole pattern; `none` while a group is open. -/
def finish? (state : SyntaxState) : Option Ast :=
  if state.groups.isEmpty then some state.level.close else none

end SyntaxState

/-- The code points of letters. -/
def letterRanges : Ranges :=
  (NamedRanges.find? properties "alphabetic").getD []

/-- The code points of digits and other numbers. -/
def numberRanges : List Ranges :=
  ["nd", "nl", "no"].filterMap (NamedRanges.find? categories)

/-- Whether a character is a letter. -/
def isLetter (c : Char) : Bool :=
  c.isAlpha || letterRanges.contains c.toNat

/-- Whether a character is a letter or a number. -/
def isLetterOrNumber (c : Char) : Bool :=
  isLetter c || numberRanges.any fun ranges => ranges.contains c.toNat

/-- Whether a name can be given to a group. -/
def isGroupName : List Char → Bool
  | [] => false
  | c :: name =>
    (c = '_' || isLetter c)
      && name.all fun c => ['_', '.', '[', ']'].contains c || isLetterOrNumber c

/-- A name, up to the angle bracket that closes it, and what is left behind that. -/
def groupName (text : List Char) : Option (String × List Char) :=
  let name := text.takeWhile (· ≠ '>')
  match text.dropWhile (· ≠ '>') with
  | [] => none
  | _ :: rest => if isGroupName name then some (String.ofList name, rest) else none

/-- Flags up to a colon or a closing parenthesis, which comes with them. `negated` says whether a
dash has been read, and `dangling` whether it was the last character. -/
def flagChange (negated dangling : Bool) (done : FlagChange) :
    List Char → Option (FlagChange × Char × List Char)
  | [] => none
  | c :: text =>
    if c = ':' || c = ')' then
      if dangling then none else some (done.reverse, c, text)
    else if c = '-' then
      if negated then none else flagChange true true done text
    else do
      let flag ← Flag.ofChar? c
      if done.any fun (known, _) => known = flag then none
      else flagChange negated false ((flag, !negated) :: done) text

/-- What an opening parenthesis starts. -/
inductive GroupStart where
  /-- No group, but flags for the rest of the group around. -/
  | flags (change : FlagChange)
  | group (change : FlagChange)
  | named (name : String)

/-- What the parenthesis before a text starts, and what is left behind the start. Conditions on
the text around are not supported. -/
def groupStart (verbose : Bool) (text : List Char) : Option (GroupStart × List Char) :=
  match skip verbose text with
  | '?' :: '=' :: _ | '?' :: '!' :: _ | '?' :: '<' :: '=' :: _ | '?' :: '<' :: '!' :: _ => none
  | '?' :: 'P' :: '<' :: text | '?' :: '<' :: text =>
    (groupName text).map fun (name, rest) => (.named name, rest)
  | '?' :: text => do
    let (change, mark, rest) ← flagChange false false [] text
    if mark = ':' then return (.group change, rest)
    else if change.isEmpty then none
    else return (.flags change, rest)
  | text => some (.group [], text)

/-- Opens a group, or sets flags. -/
def openGroup (state : SyntaxState) (text : List Char) : Option (SyntaxState × List Char) := do
  let (groupStart, rest) ← groupStart state.verbose text
  let enter (change : FlagChange) (names : List String) : SyntaxState :=
    { level := .start
      groups := ⟨state.level, change, state.verbose⟩ :: state.groups
      verbose := change.get .verbose state.verbose
      names }
  match groupStart with
  | .flags change =>
    return ({ state.push (.flags change) with verbose := change.get .verbose state.verbose }, rest)
  | .group change => return (enter change state.names, rest)
  | .named name =>
    if state.names.contains name then none else return (enter [] (name :: state.names), rest)

/-- Closes the innermost group. -/
def closeGroup (state : SyntaxState) : Option SyntaxState :=
  match state.groups with
  | [] => none
  | group :: groups =>
    some { state with
      level := group.before.push (.group group.change state.level.close)
      groups
      verbose := group.verbose }

/-- Repeats the last part; flags and the lack of a part cannot be repeated. -/
def repeatLast (state : SyntaxState) (least : Nat) (most : Option Nat) : Option SyntaxState :=
  match state.level.items with
  | [] | .flags _ :: _ => none
  | last :: items =>
    some { state with level.items := .repetition last least most :: items }

/-- What is left of a text behind a question mark, if it starts with one. Whether a repetition
takes as much as it can makes no difference to whether there is a match. -/
def dropLazy : List Char → List Char
  | '?' :: text => text
  | text => text

/-- The digits at the start of a text, and what is left behind them. In verbose mode they may be
spread out. -/
def spreadDigits (verbose : Bool) : (inComment : Bool) → List Char → List Char × List Char
  | _, [] => ([], [])
  | true, c :: text => spreadDigits verbose (c ≠ '\n') text
  | false, c :: text =>
    if verbose && isBlank c then spreadDigits verbose false text
    else if verbose && c = '#' then spreadDigits verbose true text
    else if c.isDigit then
      let (digits, rest) := spreadDigits verbose false text
      (c :: digits, rest)
    else ([], c :: text)

/-- The number of 32 bits at the start of a text, which white space may surround. -/
def decimal (verbose : Bool) (text : List Char) : Option (Nat × List Char) :=
  let (digits, rest) := spreadDigits verbose false (text.dropWhile isBlank)
  let value := digits.foldl (fun n c => 10 * n + (c.toNat - 48)) 0
  if digits.isEmpty || UInt32.size ≤ value then none else some (value, rest.dropWhile isBlank)

/-- The bounds of a repetition from behind its opening brace, and what is left behind the closing
one. -/
def bounds (verbose : Bool) (text : List Char) : Option ((Nat × Option Nat) × List Char) := do
  let (least, text) ← decimal verbose (skip verbose text)
  match text with
  | '\x7d' :: rest => return ((least, some least), rest)
  | ',' :: text =>
    match skip verbose text with
    | '\x7d' :: rest => return ((least, none), rest)
    | text =>
      let (most, text) ← decimal verbose text
      match text with
      | '\x7d' :: rest => if least ≤ most then return ((least, some most), rest) else none
      | _ => none
  | _ => none

/-- Takes in the next part of a pattern, which starts with a character that the mode does not
skip. -/
def syntaxStep (state : SyntaxState) (c : Char) (text : List Char) :
    Option (SyntaxState × List Char) :=
  match c with
  | '(' => openGroup state text
  | ')' => (closeGroup state).map (·, text)
  | '|' => some ({ state with level := state.level.bar }, text)
  | '[' => do
    let (negated, inner, rest) ← bracketClass state.verbose text
    return (state.push (.bracket negated inner), rest)
  | '?' => (repeatLast state 0 (some 1)).map (·, dropLazy text)
  | '*' => (repeatLast state 0 none).map (·, dropLazy text)
  | '+' => (repeatLast state 1 none).map (·, dropLazy text)
  | '\x7b' => do
    let ((least, most), rest) ← bounds state.verbose text
    return (← repeatLast state least most, dropLazy (skip state.verbose rest))
  | '\\' => do
    let (primitive, rest) ← escape state.verbose text
    return (state.push (.primitive primitive), rest)
  | '.' => some (state.push .dot, text)
  | '^' => some (state.push (.primitive (.assertion .lineStart)), text)
  | '$' => some (state.push (.primitive (.assertion .lineEnd)), text)
  | c => some (state.push (.primitive (.literal ⟨c, false⟩)), text)

/-- Reads on to the end of a pattern, in at most `fuel` steps. -/
def readPattern : (fuel : Nat) → SyntaxState → List Char → Option Ast
  | 0, _, _ => none
  | fuel + 1, state, text =>
    match skip state.verbose text with
    | [] => state.finish?
    | c :: text => do
      let (state, rest) ← syntaxStep state c text
      readPattern fuel state rest

/-- The syntax tree of a pattern. Every step takes in at least one character, so that one step more
than there are characters is enough. -/
def Ast.parse (pattern : List Char) : Option Ast := do
  let ast ← readPattern (pattern.length + 1) .start pattern
  if ast.depth false false ≤ nestLimit then return ast else none

end DexTriage.Pattern
