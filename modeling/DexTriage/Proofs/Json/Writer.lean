import Mathlib
import DexTriage.Json.Writer
import DexTriage.Proofs.Json.Value

/-!
# What is written is read back

A text is written in pieces that give its characters (`exists_pieces`), and so a value is written as
it has to be spelled, on one line or over several, if every text in it has a value and every number
is written as numbers are (`IsWritable.spells`). So it is the value that is read back
(`IsWritable.parse?_write`).
-/

namespace DexTriage.Json

/-- A value in which every text can be written, and every number is read as it is written. -/
inductive IsWritable : Json → Prop where
  | null :
    IsWritable .null
  | bool {b} :
    IsWritable (.bool b)
  | number {number : Number} :
    Number.Spells number.toChars number →
    IsWritable (.number number)
  | text {text} :
    IsWritable (.text (some text))
  | list {items} :
    (∀ item ∈ items, IsWritable item) →
    IsWritable (.list items)
  | object {members} :
    (∀ member ∈ members, ∃ key, member.1 = some key) →
    (∀ member ∈ members, IsWritable member.2) →
    IsWritable (.object members)

/-! ## Texts -/

/-- A code unit that is half of no pair is a character of its own. -/
lemma joinPieces_unit {n : Nat} (high : isHighSurrogate n = false) (low : isLowSurrogate n = false)
    (pieces : List Piece) :
    joinPieces (.unit n :: pieces) = (joinPieces pieces).map (Char.ofNat n :: ·) := by
  cases pieces with
  | nil => simp [joinPieces, high, low]
  | cons piece pieces =>
    cases piece with
    | char c => simp [joinPieces, high, low]
    | unit n' => simp [joinPieces, high, low]

/-- A control character is written by its code unit. -/
lemma spellsHex_control {n : Nat} (control : n < 0x20) :
    SpellsHex 0 ['0', '0', Nat.digitChar (n / 16), Nat.digitChar (n % 16)] n := by
  have digits : ∀ d < 16, hexDigit? (Nat.digitChar d) = some d := by decide
  have value : 16 * (16 * (16 * (16 * 0 + 0) + 0) + n / 16) + n % 16 = n := by omega
  have spells : SpellsHex 0 ['0', '0', Nat.digitChar (n / 16), Nat.digitChar (n % 16)]
      (16 * (16 * (16 * (16 * 0 + 0) + 0) + n / 16) + n % 16) :=
    .cons rfl (.cons rfl (.cons (digits _ (by omega)) (.cons (digits _ (by omega)) .nil)))
  rwa [value] at spells

/-- A character is written as a piece that gives it. -/
lemma exists_piece (c : Char) :
    ∃ piece, SpellsPiece (writeChar c) piece ∧
      ∀ pieces, joinPieces (piece :: pieces) = (joinPieces pieces).map (c :: ·) := by
  rw [writeChar]
  split_ifs with quote backslash backspace formFeed lineFeed carriageReturn tab control
  · exact ⟨.char '"', .named rfl, fun _ => by rw [quote]; rfl⟩
  · exact ⟨.char '\\', .named rfl, fun _ => by rw [backslash]; rfl⟩
  · exact ⟨.char '\x08', .named rfl, fun _ => by rw [backspace]; rfl⟩
  · exact ⟨.char '\x0c', .named rfl, fun _ => by rw [formFeed]; rfl⟩
  · exact ⟨.char '\n', .named rfl, fun _ => by rw [lineFeed]; rfl⟩
  · exact ⟨.char '\r', .named rfl, fun _ => by rw [carriageReturn]; rfl⟩
  · exact ⟨.char '\t', .named rfl, fun _ => by rw [tab]; rfl⟩
  · refine ⟨.unit c.toNat, .unit rfl (spellsHex_control control), fun pieces => ?_⟩
    have high : isHighSurrogate c.toNat = false := by
      rw [isHighSurrogate, Bool.and_eq_false_iff]
      exact .inl (decide_eq_false (by omega))
    have low : isLowSurrogate c.toNat = false := by
      rw [isLowSurrogate, Bool.and_eq_false_iff]
      exact .inl (decide_eq_false (by omega))
    rw [joinPieces_unit high low, Char.ofNat_toNat]
  · exact ⟨.char c, .itself quote backslash (not_lt.1 control), fun _ => rfl⟩

/-- Characters are written as pieces that give them. -/
lemma exists_pieces (chars : List Char) :
    ∃ pieces, SpellsPieces (chars.flatMap writeChar) pieces ∧ joinPieces pieces = some chars := by
  induction chars with
  | nil => exact ⟨[], .nil, rfl⟩
  | cons c chars ih =>
    obtain ⟨piece, spelled, gives⟩ := exists_piece c
    obtain ⟨pieces, others, join⟩ := ih
    exact ⟨piece :: pieces, .cons spelled others, by rw [gives, join]; rfl⟩

/-- A text is written as a token for it. -/
lemma spells_writeContent (text : String) :
    SpellsToken (writeContent (some text)) (.text (some text)) := by
  obtain ⟨pieces, spelled, join⟩ := exists_pieces text.toList
  have token : Token.ofPieces pieces = .text (some text) := by
    rw [Token.ofPieces, join, Option.map_some, String.ofList_toList]
  rw [← token]
  exact .text spelled

/-! ## Values -/

variable {pretty : Bool} {level : Nat} {rest : List Char} {behind : List Token}

/-- Nothing on a line break belongs to a token. -/
lemma spells_lineBreak (spells : SpellsTokens rest behind) :
    SpellsTokens (lineBreak pretty level ++ rest) behind := by
  have blanks (count : Nat) : SpellsTokens (List.replicate count ' ' ++ rest) behind := by
    induction count with
    | zero => exact spells
    | succ count ih => exact .blank rfl ih
  rw [lineBreak]
  split
  · exact .blank rfl (blanks _)
  · exact spells

/-- A line break ends a number, if what stands behind it does. -/
lemma endsNumber_lineBreak (ended : EndsNumber rest) :
    EndsNumber (lineBreak pretty level ++ rest) := by
  rw [lineBreak]
  split
  · intro c first
    cases first
    rfl
  · exact ended

/-- A key and the colon behind it are written as their tokens. -/
lemma spells_key (key : String) (spells : SpellsTokens rest behind) :
    SpellsTokens (writeContent (some key) ++ (colonText pretty ++ rest))
      (.text (some key) :: .colon :: behind) := by
  refine .token (spells_writeContent key) ?_
  rw [colonText]
  split
  · exact .symbol .colon (.blank rfl spells)
  · exact .symbol .colon spells

/-- A value is written as its tokens in front of others, where no number goes on behind it. -/
abbrev WrittenAs (pretty : Bool) (json : Json) : Prop :=
  ∀ {level rest behind}, EndsNumber rest → SpellsTokens rest behind →
    SpellsTokens (write pretty level json ++ rest) (json.tokens ++ behind)

/-- The items of a list behind the first one are written behind commas. -/
lemma spells_writeItems {items : List Json} (values : ∀ item ∈ items, WrittenAs pretty item)
    (ended : EndsNumber rest) (spells : SpellsTokens rest behind) :
    EndsNumber (writeItems pretty level items ++ rest) ∧
      SpellsTokens (writeItems pretty level items ++ rest)
        ((items.map tokens).flatMap (.comma :: ·) ++ behind) := by
  induction items with
  | nil => exact ⟨ended, spells⟩
  | cons item items ih =>
    obtain ⟨value, values⟩ := List.forall_mem_cons.1 values
    obtain ⟨ended', spells'⟩ := ih values
    simp only [writeItems, List.map_cons, List.flatMap_cons, List.cons_append, List.append_assoc]
    refine ⟨fun c first => by cases first; rfl, ?_⟩
    exact .symbol .comma (spells_lineBreak (value ended' spells'))

/-- The members of an object behind the first one are written behind commas. -/
lemma spells_writeMembers {members : List (Content × Json)}
    (keys : ∀ member ∈ members, ∃ key, member.1 = some key)
    (values : ∀ member ∈ members, WrittenAs pretty member.2)
    (ended : EndsNumber rest) (spells : SpellsTokens rest behind) :
    EndsNumber (writeMembers pretty level members ++ rest) ∧
      SpellsTokens (writeMembers pretty level members ++ rest)
        ((members.map tokensOfMember).flatMap (.comma :: ·) ++ behind) := by
  induction members with
  | nil => exact ⟨ended, spells⟩
  | cons member members ih =>
    obtain ⟨content, item⟩ := member
    obtain ⟨⟨key, rfl⟩, others⟩ := List.forall_mem_cons.1 keys
    obtain ⟨value, values⟩ := List.forall_mem_cons.1 values
    obtain ⟨ended', spells'⟩ := ih others values
    simp only [writeMembers, List.map_cons, List.flatMap_cons, tokensOfMember, List.cons_append,
      List.append_assoc]
    refine ⟨fun c first => by cases first; rfl, ?_⟩
    exact .symbol .comma (spells_lineBreak (spells_key key (value ended' spells')))

/-- A value that can be written is written as its tokens. -/
lemma IsWritable.writtenAs {json} (writable : IsWritable json) : WrittenAs pretty json := by
  induction writable with
  | null =>
    intro level rest behind _ spells
    exact .token .null spells
  | @bool b =>
    intro level rest behind _ spells
    cases b with
    | true => exact .token .true spells
    | false => exact .token .false spells
  | number spelled =>
    intro level rest behind ended spells
    exact .number spelled ended spells
  | @text text =>
    intro level rest behind _ spells
    exact .token (spells_writeContent text) spells
  | @list items _ values =>
    intro level rest behind _ spells
    have closed {level} : EndsNumber (lineBreak pretty level ++ ']' :: rest) ∧
        SpellsTokens (lineBreak pretty level ++ ']' :: rest) (.closeList :: behind) :=
      ⟨endsNumber_lineBreak fun c first => by cases first; rfl,
        spells_lineBreak (.symbol .closeList spells)⟩
    rw [tokens_list]
    cases items with
    | nil => exact .symbol .openList (.symbol .closeList spells)
    | cons item items =>
      obtain ⟨value, values⟩ := List.forall_mem_cons.1 values
      obtain ⟨ended', spells'⟩ := spells_writeItems values closed.1 closed.2
      simp only [write, List.map_cons, separated, List.cons_append, List.append_assoc,
        List.nil_append]
      exact .symbol .openList (spells_lineBreak (value ended' spells'))
  | @object members keys _ values =>
    intro level rest behind _ spells
    have closed {level} : EndsNumber (lineBreak pretty level ++ '\x7d' :: rest) ∧
        SpellsTokens (lineBreak pretty level ++ '\x7d' :: rest) (.closeObject :: behind) :=
      ⟨endsNumber_lineBreak fun c first => by cases first; rfl,
        spells_lineBreak (.symbol .closeObject spells)⟩
    rw [tokens_object]
    cases members with
    | nil => exact .symbol .openObject (.symbol .closeObject spells)
    | cons member members =>
      obtain ⟨content, item⟩ := member
      obtain ⟨⟨key, rfl⟩, others⟩ := List.forall_mem_cons.1 keys
      obtain ⟨value, values⟩ := List.forall_mem_cons.1 values
      obtain ⟨ended', spells'⟩ := spells_writeMembers others values closed.1 closed.2
      simp only [write, List.map_cons, separated, tokensOfMember, List.cons_append,
        List.append_assoc, List.nil_append]
      exact .symbol .openObject
        (spells_lineBreak (spells_key key (value ended' spells')))

/-- A value that can be written is spelled by what is written. -/
lemma IsWritable.spells {json} (writable : IsWritable json) (pretty : Bool) (level : Nat) :
    Spells (write pretty level json) json := by
  have spells : SpellsTokens (write pretty level json ++ []) (json.tokens ++ []) :=
    writable.writtenAs nofun .nil
  rwa [List.append_nil, List.append_nil] at spells

/-- A value that can be written is read back. -/
lemma IsWritable.parse?_write {json} (writable : IsWritable json) (pretty : Bool) (level : Nat) :
    parse? (String.ofList (write pretty level json)) = some json := by
  rw [parse?_eq_some_iff, String.toList_ofList]
  exact writable.spells pretty level

end DexTriage.Json
