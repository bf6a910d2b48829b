import Mathlib
import DexTriage.Json.Token
import DexTriage.Proofs.Json.Number

/-!
# How tokens are written

A text in quotes is written in pieces: characters that stand for themselves, letters behind a
backslash, and code units in four digits (`SpellsPiece`). A text spells tokens (`SpellsTokens`) if
these are written one behind the other, with blanks between them, and nothing that could go on with
a number stands directly behind one.

What a machine in the middle of a token still needs for tokens to come out is `SpellsFrom`. A step
of the machine takes the first character off it, in either direction (`Lexer.leads_of_step`,
`Lexer.exists_step`), and so the machine reads the tokens that a text spells, and nothing else
(`tokens?_eq_some_iff`).
-/

namespace DexTriage.Json

/-- The number that hexadecimal digits give, read on from a value. -/
inductive SpellsHex : (value : Nat) → List Char → Nat → Prop where
  | nil {value} :
    SpellsHex value [] value
  | cons {value c digit digits n} :
    hexDigit? c = some digit →
    SpellsHex (16 * value + digit) digits n →
    SpellsHex value (c :: digits) n

/-- How a part of a text in quotes is written. -/
inductive SpellsPiece : List Char → Piece → Prop where
  | itself {c} :
    c ≠ '"' →
    c ≠ '\\' →
    0x20 ≤ c.toNat →
    SpellsPiece [c] (.char c)
  | named {letter c} :
    escaped? letter = some c →
    SpellsPiece ['\\', letter] (.char c)
  | unit {digits n} :
    digits.length = 4 →
    SpellsHex 0 digits n →
    SpellsPiece ('\\' :: 'u' :: digits) (.unit n)

/-- How the parts of a text in quotes are written. -/
inductive SpellsPieces : List Char → List Piece → Prop where
  | nil :
    SpellsPieces [] []
  | cons {chars piece rest pieces} :
    SpellsPiece chars piece →
    SpellsPieces rest pieces →
    SpellsPieces (chars ++ rest) (piece :: pieces)

/-- The token for a text in quotes with the given pieces. -/
def Token.ofPieces (pieces : List Piece) : Token :=
  .text ((joinPieces pieces).map String.ofList)

/-- How a token other than a number is written. -/
inductive SpellsToken : List Char → Token → Prop where
  | openList :
    SpellsToken ['['] .openList
  | closeList :
    SpellsToken [']'] .closeList
  | openObject :
    SpellsToken ['\x7b'] .openObject
  | closeObject :
    SpellsToken ['\x7d'] .closeObject
  | comma :
    SpellsToken [','] .comma
  | colon :
    SpellsToken [':'] .colon
  | null :
    SpellsToken ['n', 'u', 'l', 'l'] .null
  | true :
    SpellsToken ['t', 'r', 'u', 'e'] (.bool true)
  | false :
    SpellsToken ['f', 'a', 'l', 's', 'e'] (.bool false)
  | text {chars pieces} :
    SpellsPieces chars pieces →
    SpellsToken ('"' :: (chars ++ ['"'])) (.ofPieces pieces)

/-- Nothing at the beginning of a text could go on with a number. -/
def EndsNumber (text : List Char) : Prop :=
  ∀ c ∈ text.head?, isNumeric c = false

/-- How tokens are written one behind the other. -/
inductive SpellsTokens : List Char → List Token → Prop where
  | nil :
    SpellsTokens [] []
  | blank {c text tokens} :
    isBlank c = true →
    SpellsTokens text tokens →
    SpellsTokens (c :: text) tokens
  | token {chars token text tokens} :
    SpellsToken chars token →
    SpellsTokens text tokens →
    SpellsTokens (chars ++ text) (token :: tokens)
  | number {chars number text tokens} :
    Number.Spells chars number →
    EndsNumber text →
    SpellsTokens text tokens →
    SpellsTokens (chars ++ text) (.number number :: tokens)

/-- A token of one character stands in front of others. -/
lemma SpellsTokens.symbol {c token text tokens} (spelled : SpellsToken [c] token)
    (spells : SpellsTokens text tokens) : SpellsTokens (c :: text) (token :: tokens) :=
  .token spelled spells

/-- What is still to be written for tokens to come out of a machine in the middle of something. -/
inductive SpellsFrom : Mode → List Char → List Token → Prop where
  | between {text tokens} :
    SpellsTokens text tokens →
    SpellsFrom .between text tokens
  | word (rest) {token text tokens} :
    rest ≠ [] →
    SpellsTokens text tokens →
    SpellsFrom (.word rest token) (rest ++ text) (token :: tokens)
  | number (done chars) {number text tokens} :
    Number.Spells (done.reverse ++ chars) number →
    EndsNumber text →
    SpellsTokens text tokens →
    SpellsFrom (.number done) (chars ++ text) (.number number :: tokens)
  | text (done) {chars pieces text tokens} :
    SpellsPieces chars pieces →
    SpellsTokens text tokens →
    SpellsFrom (.text done) (chars ++ '"' :: text) (.ofPieces (done.reverse ++ pieces) :: tokens)
  | escape (done) {piece letters chars pieces text tokens} :
    SpellsPiece ('\\' :: letters) piece →
    SpellsPieces chars pieces →
    SpellsTokens text tokens →
    SpellsFrom (.escape done) (letters ++ (chars ++ '"' :: text))
      (.ofPieces (done.reverse ++ piece :: pieces) :: tokens)
  | unit (done) {left value digits n chars pieces text tokens} :
    digits.length = left + 1 →
    SpellsHex value digits n →
    SpellsPieces chars pieces →
    SpellsTokens text tokens →
    SpellsFrom (.unit done left value) (digits ++ (chars ++ '"' :: text))
      (.ofPieces (done.reverse ++ .unit n :: pieces) :: tokens)

/-- The tokens that a machine gives for a text. -/
def Lexer.run (lexer : Lexer) (text : List Char) : Option (List Token) :=
  (text.foldlM Lexer.step lexer).bind Lexer.finish?

/-- A number begins with a digit or with the sign. -/
lemma Number.Spells.head {text number} (spells : Number.Spells text number) :
    ∃ c rest, text = c :: rest ∧ (c.isDigit = true ∨ c = '-') := by
  cases spells with
  | @parts negative whole _ behind _ ending isWhole _ _ =>
    obtain ⟨c, digits, rfl⟩ := List.exists_cons_of_ne_nil isWhole.nonempty
    cases negative with
    | true => exact ⟨_, _, rfl, .inr rfl⟩
    | false => exact ⟨c, _, rfl, .inl (isWhole.isDigit c (List.mem_cons_self ..))⟩

/-- Everything in a number is part of one. -/
lemma Number.Spells.isNumeric {text number} (spells : Number.Spells text number) :
    ∀ c ∈ text, isNumeric c = true := by
  have digits {chars : List Char} (areDigits : ∀ c ∈ chars, c.isDigit = true) :
      ∀ c ∈ chars, Json.isNumeric c = true := by
    intro c mem
    rw [Json.isNumeric, areDigits c mem]
    rfl
  have marks {chars : List Char} (numeric : chars.all Json.isNumeric = true) :
      ∀ c ∈ chars, Json.isNumeric c = true :=
    List.all_eq_true.1 numeric
  cases spells with
  | @parts negative whole _ behind _ ending isWhole fractional exponential =>
    refine List.forall_mem_append.2 ⟨?_, List.forall_mem_append.2 ⟨digits isWhole.isDigit,
      List.forall_mem_append.2 ⟨?_, ?_⟩⟩⟩
    · cases negative with
      | true => exact marks rfl
      | false => exact nofun
    · cases fractional with
      | absent => exact nofun
      | present areDigits => exact List.forall_mem_cons.2 ⟨rfl, digits areDigits.isDigit⟩
    · cases exponential with
      | absent => exact nofun
      | present marked sign areDigits =>
        refine List.forall_mem_cons.2 ⟨?_, List.forall_mem_append.2 ⟨?_, digits areDigits.isDigit⟩⟩
        · obtain rfl | rfl := marked
          · rfl
          · rfl
        · cases sign with
          | absent => exact nofun
          | plus => exact marks rfl
          | minus => exact marks rfl

namespace Lexer

/-- The tokens so far, and those that a text adds to them, are what a machine gives for the text. -/
def Leads (lexer : Lexer) (text : List Char) (result : List Token) : Prop :=
  ∃ tokens, SpellsFrom lexer.mode text tokens ∧ result = lexer.tokens.reverse ++ tokens

/-- A machine goes on behind the first character. -/
lemma run_cons (lexer : Lexer) (c : Char) (text : List Char) :
    lexer.run (c :: text) = (lexer.step c).bind fun next => next.run text := by
  rw [run, List.foldlM_cons, Option.bind_eq_bind, Option.bind_assoc]
  rfl

/-- A machine at the beginning of a text leads to what is spelled there. -/
lemma Leads.intro {before text tokens} (spells : SpellsTokens text tokens) :
    Leads ⟨before, .between⟩ text (before.reverse ++ tokens) :=
  ⟨tokens, .between spells, rfl⟩

/-- What a machine leads to between two tokens is spelled from there on. -/
lemma Leads.spells {before text result} (leads : Leads ⟨before, .between⟩ text result) :
    ∃ tokens, SpellsTokens text tokens ∧ result = before.reverse ++ tokens := by
  obtain ⟨tokens, from', rfl⟩ := leads
  cases from' with
  | between spells => exact ⟨tokens, spells, rfl⟩

/-- A finished token is the first one that is spelled. -/
lemma Leads.finished {before token text result}
    (leads : Leads ⟨token :: before, .between⟩ text result) :
    ∃ tokens, SpellsTokens text tokens ∧ result = before.reverse ++ token :: tokens := by
  obtain ⟨tokens, spells, rfl⟩ := leads.spells
  exact ⟨tokens, spells, by rw [List.reverse_cons, List.append_assoc, List.singleton_append]⟩

/-- A finished token stands in front of what is spelled behind it. -/
lemma Leads.behind {before token text tokens} (spells : SpellsTokens text tokens) :
    Leads ⟨token :: before, .between⟩ text (before.reverse ++ token :: tokens) :=
  ⟨tokens, .between spells, by simp⟩

/-- A token of one character is written by it. -/
lemma leads_of_symbol {before c token text result} (spelled : SpellsToken [c] token)
    (leads : Leads ⟨token :: before, .between⟩ text result) :
    Leads ⟨before, .between⟩ (c :: text) result := by
  obtain ⟨tokens, spells, rfl⟩ := leads.finished
  exact .intro (.symbol spelled spells)

/-- A word is written by its first character and the others. -/
lemma leads_of_word {before c rest token text result} (spelled : SpellsToken (c :: rest) token)
    (leads : Leads ⟨before, .word rest token⟩ text result) :
    Leads ⟨before, .between⟩ (c :: text) result := by
  obtain ⟨tokens, from', rfl⟩ := leads
  cases from' with
  | word _ _ spells => exact .intro (.token spelled spells)

/-- What is begun at a character is spelled from there on. -/
lemma leads_of_start {before c next text result} (begun : start before c = some next)
    (leads : Leads next text result) : Leads ⟨before, .between⟩ (c :: text) result := by
  rw [start.eq_def] at begun
  split at begun
  case isTrue blank =>
    cases begun
    obtain ⟨tokens, spells, rfl⟩ := leads.spells
    exact .intro (.blank blank spells)
  case isFalse =>
    split at begun
    case isTrue =>
      cases begun
      obtain ⟨tokens, from', rfl⟩ := leads
      cases from' with
      | number _ _ spelled ended spells => exact .intro (.number spelled ended spells)
    case isFalse =>
      split at begun
      · cases begun
        exact leads_of_symbol .openList leads
      · cases begun
        exact leads_of_symbol .closeList leads
      · cases begun
        exact leads_of_symbol .openObject leads
      · cases begun
        exact leads_of_symbol .closeObject leads
      · cases begun
        exact leads_of_symbol .comma leads
      · cases begun
        exact leads_of_symbol .colon leads
      · cases begun
        obtain ⟨tokens, from', rfl⟩ := leads
        cases from' with
        | text _ spelled spells =>
          have whole := SpellsTokens.token (.text spelled) spells
          rw [List.cons_append, List.append_assoc] at whole
          exact .intro whole
      · cases begun
        exact leads_of_word .null leads
      · cases begun
        exact leads_of_word .true leads
      · cases begun
        exact leads_of_word .false leads
      · cases begun

/-- A step within a word takes its next character. -/
lemma leads_of_step_word {before rest token c next text result}
    (stepped : step ⟨before, .word rest token⟩ c = some next) (leads : Leads next text result) :
    Leads ⟨before, .word rest token⟩ (c :: text) result := by
  cases rest with
  | nil => cases stepped
  | cons w rest =>
    simp only [step] at stepped
    split at stepped
    case isTrue => cases stepped
    case isFalse same =>
      obtain rfl := not_not.1 same
      split at stepped
      case isTrue last =>
        obtain rfl := List.isEmpty_iff.1 last
        cases stepped
        obtain ⟨tokens, spells, rfl⟩ := leads.finished
        exact ⟨_, .word [c] nofun spells, rfl⟩
      case isFalse =>
        cases stepped
        obtain ⟨tokens, from', rfl⟩ := leads
        cases from' with
        | word _ _ spells => exact ⟨_, .word (c :: rest) nofun spells, rfl⟩

/-- A step within a number takes one more character of it, or the first one of what is behind it. -/
lemma leads_of_step_number {before done c next text result}
    (stepped : step ⟨before, .number done⟩ c = some next) (leads : Leads next text result) :
    Leads ⟨before, .number done⟩ (c :: text) result := by
  simp only [step] at stepped
  split at stepped
  case isTrue =>
    cases stepped
    obtain ⟨tokens, from', rfl⟩ := leads
    cases from' with
    | @number _ chars number _ _ spelled ended spells =>
      rw [List.reverse_cons, List.append_assoc] at spelled
      exact ⟨_, .number done (c :: chars) spelled ended spells, rfl⟩
  case isFalse other =>
    -- the number is over, and the character begins what stands behind it
    obtain ⟨number, read, begun⟩ := Option.bind_eq_some_iff.1 stepped
    obtain ⟨tokens, spells, rfl⟩ := (leads_of_start begun leads).finished
    have spelled := Number.ofChars?_eq_some_iff.1 read
    rw [← List.append_nil done.reverse] at spelled
    have ended : EndsNumber (c :: text) := by
      intro c' first
      cases first
      exact Bool.eq_false_iff.2 other
    exact ⟨_, .number done [] spelled ended spells, rfl⟩

/-- A step within a text takes a piece of it, or its end, or the backslash of a piece. -/
lemma leads_of_step_text {before done c next text result}
    (stepped : step ⟨before, .text done⟩ c = some next) (leads : Leads next text result) :
    Leads ⟨before, .text done⟩ (c :: text) result := by
  simp only [step] at stepped
  split at stepped
  case isTrue quote =>
    subst quote
    cases stepped
    obtain ⟨tokens, spells, rfl⟩ := leads.finished
    refine ⟨_, .text done .nil spells, ?_⟩
    rw [List.append_nil]
    rfl
  case isFalse unquoted =>
    split at stepped
    case isTrue backslash =>
      subst backslash
      cases stepped
      obtain ⟨tokens, from', rfl⟩ := leads
      cases from' with
      | escape _ spelled others spells =>
        have from' := SpellsFrom.text done (.cons spelled others) spells
        rw [List.cons_append, List.cons_append, List.append_assoc] at from'
        exact ⟨_, from', rfl⟩
    case isFalse unescaped =>
      split at stepped
      case isTrue => cases stepped
      case isFalse visible =>
        cases stepped
        obtain ⟨tokens, from', rfl⟩ := leads
        cases from' with
        | text _ others spells =>
          have piece := SpellsPiece.itself unquoted unescaped (not_lt.1 visible)
          refine ⟨_, .text done (.cons piece others) spells, ?_⟩
          rw [List.reverse_cons, List.append_assoc, List.singleton_append]

/-- A step behind a backslash takes the letter of a piece, or the letter in front of digits. -/
lemma leads_of_step_escape {before done c next text result}
    (stepped : step ⟨before, .escape done⟩ c = some next) (leads : Leads next text result) :
    Leads ⟨before, .escape done⟩ (c :: text) result := by
  simp only [step] at stepped
  split at stepped
  case isTrue unit =>
    subst unit
    cases stepped
    obtain ⟨tokens, from', rfl⟩ := leads
    cases from' with
    | unit _ four hex others spells =>
      exact ⟨_, .escape done (.unit four hex) others spells, rfl⟩
  case isFalse =>
    obtain ⟨e, named, rfl⟩ := Option.map_eq_some_iff.1 stepped
    obtain ⟨tokens, from', rfl⟩ := leads
    cases from' with
    | text _ others spells =>
      refine ⟨_, .escape done (.named named) others spells, ?_⟩
      rw [List.reverse_cons, List.append_assoc, List.singleton_append]

/-- A step within a code unit takes one more digit. -/
lemma leads_of_step_unit {before done left value c next text result}
    (stepped : step ⟨before, .unit done left value⟩ c = some next)
    (leads : Leads next text result) :
    Leads ⟨before, .unit done left value⟩ (c :: text) result := by
  obtain ⟨digit, read, stepped⟩ := Option.bind_eq_some_iff.1 stepped
  cases left with
  | zero =>
    cases stepped
    obtain ⟨tokens, from', rfl⟩ := leads
    cases from' with
    | text _ others spells =>
      have length : [c].length = 0 + 1 := rfl
      refine ⟨_, .unit done length (.cons read .nil) others spells, ?_⟩
      rw [List.reverse_cons, List.append_assoc, List.singleton_append]
  | succ left =>
    cases stepped
    obtain ⟨tokens, from', rfl⟩ := leads
    cases from' with
    | @unit _ _ _ digits _ _ _ _ _ length hex others spells =>
      have length' : (c :: digits).length = left + 1 + 1 := congrArg (· + 1) length
      exact ⟨_, .unit done length' (.cons read hex) others spells, rfl⟩

/-- A step takes the first character off what a machine still needs. -/
lemma leads_of_step {lexer c next text result} (stepped : step lexer c = some next)
    (leads : Leads next text result) : Leads lexer (c :: text) result := by
  obtain ⟨before, mode⟩ := lexer
  cases mode with
  | between => exact leads_of_start stepped leads
  | word => exact leads_of_step_word stepped leads
  | number => exact leads_of_step_number stepped leads
  | text => exact leads_of_step_text stepped leads
  | escape => exact leads_of_step_escape stepped leads
  | unit => exact leads_of_step_unit stepped leads

/-- A number is begun with a digit or with the sign. -/
lemma start_of_opens {c : Char} (opens : c.isDigit = true ∨ c = '-') (before : List Token) :
    start before c = some ⟨before, .number [c]⟩ := by
  have solid : ¬ isBlank c = true := by
    obtain digit | rfl := opens
    · have other (mark : Char) (plain : mark.isDigit = false) : c ≠ mark :=
        Number.ne_of_isDigit digit mark plain
      simp [isBlank, other ' ' rfl, other '\n' rfl, other '\t' rfl, other '\r' rfl]
    · decide
  rw [start.eq_def, if_neg solid, if_pos]
  simpa using opens

/-- What is begun at a character is what is spelled from there on. -/
lemma exists_start {before c text result} (leads : Leads ⟨before, .between⟩ (c :: text) result) :
    ∃ next, start before c = some next ∧ Leads next text result := by
  obtain ⟨tokens, spells, rfl⟩ := leads.spells
  generalize whole : c :: text = chars at spells
  cases spells with
  | nil => cases whole
  | blank blank spells =>
    cases whole
    exact ⟨_, if_pos blank, .intro spells⟩
  | @number chars number _ tokens spelled ended spells =>
    obtain ⟨first, rest, rfl, opens⟩ := spelled.head
    cases whole
    refine ⟨_, start_of_opens opens before, _, .number [c] rest spelled ended spells, rfl⟩
  | @token chars token behind tokens spelled spells =>
    cases spelled with
    | openList | closeList | openObject | closeObject | comma | colon =>
      cases whole
      exact ⟨_, rfl, .behind spells⟩
    | null =>
      cases whole
      exact ⟨_, rfl, _, .word ['u', 'l', 'l'] nofun spells, rfl⟩
    | true =>
      cases whole
      exact ⟨_, rfl, _, .word ['r', 'u', 'e'] nofun spells, rfl⟩
    | false =>
      cases whole
      exact ⟨_, rfl, _, .word ['a', 'l', 's', 'e'] nofun spells, rfl⟩
    | @text chars pieces spelled =>
      rw [List.cons_append, List.append_assoc] at whole
      cases whole
      exact ⟨_, rfl, _, .text [] spelled spells, rfl⟩

/-- A step is possible at the next character of a word. -/
lemma exists_step_word {before rest token c text result}
    (leads : Leads ⟨before, .word rest token⟩ (c :: text) result) :
    ∃ next, step ⟨before, .word rest token⟩ c = some next ∧ Leads next text result := by
  obtain ⟨tokens, from', rfl⟩ := leads
  generalize whole : c :: text = chars at from'
  cases from' with
  | @word _ _ behind tokens some spells =>
    cases rest with
    | nil => exact absurd rfl some
    | cons w rest =>
      cases whole
      simp only [step, ne_eq, not_true_eq_false, if_false]
      cases rest with
      | nil => exact ⟨_, rfl, .behind spells⟩
      | cons w' rest => exact ⟨_, rfl, _, .word (w' :: rest) nofun spells, rfl⟩

/-- A step is possible at the next character of a number, and at what ends it. -/
lemma exists_step_number {before done c text result}
    (leads : Leads ⟨before, .number done⟩ (c :: text) result) :
    ∃ next, step ⟨before, .number done⟩ c = some next ∧ Leads next text result := by
  obtain ⟨tokens, from', rfl⟩ := leads
  generalize whole : c :: text = chars at from'
  cases from' with
  | @number _ chars number behind tokens spelled ended spells =>
    cases chars with
    | nil =>
      cases whole
      rw [List.append_nil] at spelled
      have other : ¬ isNumeric c = true := Bool.eq_false_iff.1 (ended c rfl)
      have behind : Leads ⟨.number number :: before, .between⟩ (c :: text)
          (before.reverse ++ .number number :: tokens) := .behind spells
      obtain ⟨next, begun, leads⟩ := exists_start behind
      refine ⟨next, ?_, leads⟩
      simp only [step, if_neg other, Number.ofChars?_eq_some_iff.2 spelled]
      exact begun
    | cons d chars =>
      cases whole
      have numeric := spelled.isNumeric c (by simp)
      refine ⟨_, if_pos numeric, _, .number (c :: done) chars ?_ ended spells, rfl⟩
      rwa [List.reverse_cons, List.append_assoc]

/-- A step is possible at the next piece of a text, and at its end. -/
lemma exists_step_text {before done c text result}
    (leads : Leads ⟨before, .text done⟩ (c :: text) result) :
    ∃ next, step ⟨before, .text done⟩ c = some next ∧ Leads next text result := by
  obtain ⟨tokens, from', rfl⟩ := leads
  generalize whole : c :: text = chars at from'
  cases from' with
  | text _ spelled spells =>
    cases spelled with
    | nil =>
      cases whole
      rw [List.append_nil]
      exact ⟨_, rfl, .behind spells⟩
    | cons piece others =>
      cases piece with
      | itself unquoted unescaped visible =>
        cases whole
        refine ⟨⟨before, .text (.char c :: done)⟩, ?_, _, .text _ others spells, by simp⟩
        simp only [step, if_neg unquoted, if_neg unescaped, if_neg (not_lt.2 visible)]
      | named named =>
        cases whole
        exact ⟨_, rfl, _, .escape done (.named named) others spells, by simp⟩
      | unit four hex =>
        cases whole
        have from' := SpellsFrom.escape done (.unit four hex) others spells
        rw [← List.append_assoc] at from'
        exact ⟨_, rfl, _, from', rfl⟩

/-- A step is possible behind a backslash. -/
lemma exists_step_escape {before done c text result}
    (leads : Leads ⟨before, .escape done⟩ (c :: text) result) :
    ∃ next, step ⟨before, .escape done⟩ c = some next ∧ Leads next text result := by
  obtain ⟨tokens, from', rfl⟩ := leads
  generalize whole : c :: text = chars at from'
  cases from' with
  | @escape _ piece letters chars pieces behind tokens spelled others spells =>
    generalize written : '\\' :: letters = marked at spelled
    cases spelled with
    | itself _ unescaped _ =>
      cases written
      exact absurd rfl unescaped
    | @named letter e named =>
      cases written
      cases whole
      have other : c ≠ 'u' := by
        rintro rfl
        cases named
      refine ⟨⟨before, .text (.char e :: done)⟩, ?_, _, .text _ others spells, by simp⟩
      simp only [step, if_neg other, named, Option.map_some]
    | unit four hex =>
      cases written
      cases whole
      exact ⟨_, rfl, _, .unit done four hex others spells, rfl⟩

/-- A step is possible at a digit of a code unit. -/
lemma exists_step_unit {before done left value c text result}
    (leads : Leads ⟨before, .unit done left value⟩ (c :: text) result) :
    ∃ next, step ⟨before, .unit done left value⟩ c = some next ∧ Leads next text result := by
  obtain ⟨tokens, from', rfl⟩ := leads
  generalize whole : c :: text = chars at from'
  cases from' with
  | @unit _ _ _ digits n chars pieces behind tokens length hex others spells =>
    cases hex with
    | nil => cases length
    | @cons _ d digit digits _ read hex =>
      cases whole
      have length := Nat.succ.inj length
      cases left with
      | zero =>
        obtain rfl := List.length_eq_zero_iff.1 length
        cases hex
        refine ⟨⟨before, .text (.unit (16 * value + digit) :: done)⟩, ?_, _,
          .text _ others spells, by simp⟩
        simp only [step, read]
        rfl
      | succ left =>
        refine ⟨⟨before, .unit done left (16 * value + digit)⟩, ?_, _,
          .unit done length hex others spells, rfl⟩
        simp only [step, read]
        rfl

/-- A step is possible where something is spelled, and leads to the same. -/
lemma exists_step {lexer c text result} (leads : Leads lexer (c :: text) result) :
    ∃ next, step lexer c = some next ∧ Leads next text result := by
  obtain ⟨before, mode⟩ := lexer
  cases mode with
  | between => exact exists_start leads
  | word => exact exists_step_word leads
  | number => exact exists_step_number leads
  | text => exact exists_step_text leads
  | escape => exact exists_step_escape leads
  | unit => exact exists_step_unit leads

/-- Every token is written with something. -/
lemma ne_nil_of_spellsToken {chars token} (spelled : SpellsToken chars token) : chars ≠ [] := by
  cases spelled <;> nofun

/-- No token is spelled by nothing. -/
lemma tokens_of_nil {tokens} (spells : SpellsTokens [] tokens) : tokens = [] := by
  generalize whole : [] = chars at spells
  cases spells with
  | nil => rfl
  | blank => cases whole
  | token spelled _ =>
    exact absurd (List.append_eq_nil_iff.1 whole.symm).1 (ne_nil_of_spellsToken spelled)
  | number spelled _ _ =>
    obtain ⟨_, _, rfl, -⟩ := spelled.head
    cases whole

/-- At the end of a text, a machine gives what it leads to. -/
lemma finish?_eq_some_iff {lexer : Lexer} {result} :
    lexer.finish? = some result ↔ Leads lexer [] result := by
  obtain ⟨before, mode⟩ := lexer
  constructor
  · intro finished
    cases mode with
    | between =>
      cases finished
      exact ⟨[], .between .nil, (List.append_nil _).symm⟩
    | number done =>
      obtain ⟨number, read, finished⟩ := Option.bind_eq_some_iff.1 finished
      cases finished
      have spelled := Number.ofChars?_eq_some_iff.1 read
      rw [← List.append_nil done.reverse] at spelled
      exact ⟨_, .number done [] spelled nofun .nil, List.reverse_cons⟩
    | word => cases finished
    | text => cases finished
    | escape => cases finished
    | unit => cases finished
  · rintro ⟨tokens, from', rfl⟩
    generalize whole : [] = chars at from'
    cases from' with
    | between spells =>
      subst whole
      rw [tokens_of_nil spells, List.append_nil]
      rfl
    | word _ some _ => exact absurd (List.append_eq_nil_iff.1 whole.symm).1 some
    | number _ _ spelled _ spells =>
      obtain ⟨rfl, rfl⟩ := List.append_eq_nil_iff.1 whole.symm
      rw [List.append_nil] at spelled
      rw [tokens_of_nil spells, finish?]
      simp only [Number.ofChars?_eq_some_iff.2 spelled]
      rw [← List.reverse_cons]
      rfl
    | text => simp at whole
    | escape => simp at whole
    | unit => simp at whole

/-- What a machine gives for a text is what it leads to. -/
lemma run_eq_some_iff {lexer : Lexer} {text result} :
    lexer.run text = some result ↔ Leads lexer text result := by
  induction text generalizing lexer with
  | nil => exact finish?_eq_some_iff
  | cons c text ih =>
    rw [run_cons, Option.bind_eq_some_iff]
    constructor
    · rintro ⟨next, stepped, ran⟩
      exact leads_of_step stepped (ih.1 ran)
    · intro leads
      obtain ⟨next, stepped, leads⟩ := exists_step leads
      exact ⟨next, stepped, ih.2 leads⟩

end Lexer

/-- The tokens of a text are those that it spells. -/
lemma tokens?_eq_some_iff {text : List Char} {tokens : List Token} :
    tokens? text = some tokens ↔ SpellsTokens text tokens := by
  have run : tokens? text = Lexer.run ⟨[], .between⟩ text := rfl
  rw [run, Lexer.run_eq_some_iff]
  constructor
  · intro leads
    obtain ⟨_, spells, rfl⟩ := leads.spells
    exact spells
  · exact Lexer.Leads.intro

end DexTriage.Json
