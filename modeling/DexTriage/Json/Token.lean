import DexTriage.Json.Number
import DexTriage.Text.Utf16

/-!
# Tokens of JSON

A JSON text is cut into tokens by a machine that takes in one character at a time. An escape may
name one half of a surrogate pair; a text in which a half stands alone is a token without a value,
since what reads the text may not care about it.
-/

namespace DexTriage.Json

/-- The content of a text in quotes; `none` if it names a surrogate without its other half. -/
abbrev Content := Option String

/-- A token. -/
inductive Token where
  | openList
  | closeList
  | openObject
  | closeObject
  | comma
  | colon
  | null
  | bool (value : Bool)
  | number (number : Number)
  | text (content : Content)
  deriving DecidableEq, Repr

/-- A part of a text in quotes: a character, or a code unit named by four digits. -/
inductive Piece where
  | char (c : Char)
  | unit (n : Nat)
  deriving DecidableEq, Repr

/-- The characters that pieces stand for. A high surrogate goes with the low one that is named
directly behind it. -/
def joinPieces : List Piece → Option (List Char)
  | [] => some []
  | .char c :: pieces => (joinPieces pieces).map (c :: ·)
  | .unit high :: .unit low :: pieces =>
    if isHighSurrogate high then
      if isLowSurrogate low then (joinPieces pieces).map (ofSurrogates high low :: ·) else none
    else if isLowSurrogate high then none
    else (joinPieces (.unit low :: pieces)).map (Char.ofNat high :: ·)
  | .unit n :: pieces =>
    if isHighSurrogate n || isLowSurrogate n then none
    else (joinPieces pieces).map (Char.ofNat n :: ·)

/-- What the machine is in the middle of. -/
inductive Mode where
  /-- Between tokens. -/
  | between
  /-- Within a word, of which `rest` is still to come. -/
  | word (rest : List Char) (token : Token)
  /-- Within a number, of which the characters so far are given with the last one first. -/
  | number (done : List Char)
  /-- Within quotes, with the pieces so far, the last one first. -/
  | text (done : List Piece)
  /-- Behind a backslash. -/
  | escape (done : List Piece)
  /-- Within the four digits of a code unit, of which `left` are still to come. -/
  | unit (done : List Piece) (left : Nat) (value : Nat)
  deriving DecidableEq, Repr

/-- The machine: the tokens so far, the last one first, and what it is in the middle of. -/
structure Lexer where
  tokens : List Token
  mode : Mode
  deriving DecidableEq, Repr

/-- Whether a character is a blank of JSON. -/
def isBlank (c : Char) : Bool :=
  c = ' ' || c = '\n' || c = '\t' || c = '\r'

/-- Whether a character can be part of a number. -/
def isNumeric (c : Char) : Bool :=
  c.isDigit || c = '-' || c = '+' || c = '.' || c = 'e' || c = 'E'

/-- The character that a letter behind a backslash stands for. -/
def escaped? : Char → Option Char
  | '"' => some '"'
  | '\\' => some '\\'
  | '/' => some '/'
  | 'b' => some '\x08'
  | 'f' => some '\x0c'
  | 'n' => some '\n'
  | 'r' => some '\r'
  | 't' => some '\t'
  | _ => none

/-- The value of a hexadecimal digit. -/
def hexDigit? (c : Char) : Option Nat :=
  if c.isDigit then some (c.toNat - 48)
  else if 'a' ≤ c ∧ c ≤ 'f' then some (c.toNat - 87)
  else if 'A' ≤ c ∧ c ≤ 'F' then some (c.toNat - 55)
  else none

namespace Lexer

/-- Starts a token, or passes over a blank. -/
def start (tokens : List Token) (c : Char) : Option Lexer :=
  if isBlank c then some ⟨tokens, .between⟩
  else if c.isDigit || c = '-' then some ⟨tokens, .number [c]⟩
  else
    match c with
    | '[' => some ⟨.openList :: tokens, .between⟩
    | ']' => some ⟨.closeList :: tokens, .between⟩
    | '\x7b' => some ⟨.openObject :: tokens, .between⟩
    | '\x7d' => some ⟨.closeObject :: tokens, .between⟩
    | ',' => some ⟨.comma :: tokens, .between⟩
    | ':' => some ⟨.colon :: tokens, .between⟩
    | '"' => some ⟨tokens, .text []⟩
    | 'n' => some ⟨tokens, .word ['u', 'l', 'l'] .null⟩
    | 't' => some ⟨tokens, .word ['r', 'u', 'e'] (.bool true)⟩
    | 'f' => some ⟨tokens, .word ['a', 'l', 's', 'e'] (.bool false)⟩
    | _ => none

/-- Takes in a character. -/
def step (lexer : Lexer) (c : Char) : Option Lexer :=
  match lexer.mode with
  | .between => start lexer.tokens c
  | .word [] _ => none
  | .word (w :: rest) token =>
    if c ≠ w then none
    else if rest.isEmpty then some ⟨token :: lexer.tokens, .between⟩
    else some ⟨lexer.tokens, .word rest token⟩
  | .number done =>
    if isNumeric c then some ⟨lexer.tokens, .number (c :: done)⟩
    else do start (.number (← Number.ofChars? done.reverse) :: lexer.tokens) c
  | .text done =>
    if c = '"' then
      some ⟨.text ((joinPieces done.reverse).map String.ofList) :: lexer.tokens, .between⟩
    else if c = '\\' then some ⟨lexer.tokens, .escape done⟩
    else if c.toNat < 0x20 then none
    else some ⟨lexer.tokens, .text (.char c :: done)⟩
  | .escape done =>
    if c = 'u' then some ⟨lexer.tokens, .unit done 3 0⟩
    else (escaped? c).map fun e => ⟨lexer.tokens, .text (.char e :: done)⟩
  | .unit done left value => do
    let value := 16 * value + (← hexDigit? c)
    match left with
    | 0 => return ⟨lexer.tokens, .text (.unit value :: done)⟩
    | left + 1 => return ⟨lexer.tokens, .unit done left value⟩

/-- The tokens at the end of the text; there are none in the middle of a token. -/
def finish? (lexer : Lexer) : Option (List Token) :=
  match lexer.mode with
  | .between => some lexer.tokens.reverse
  | .number done => do
    return (.number (← Number.ofChars? done.reverse) :: lexer.tokens).reverse
  | _ => none

end Lexer

/-- The tokens of a text. -/
def tokens? (text : List Char) : Option (List Token) := do
  (← text.foldlM Lexer.step ⟨[], .between⟩).finish?

end DexTriage.Json
