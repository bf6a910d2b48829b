import Mathlib
import DexTriage.Json.Value
import DexTriage.Proofs.Json.Token

/-!
# How values are written

Every value has its own row of tokens (`Json.tokens`), in which the items of a list and the members
of an object are told apart by commas. The machine that reads tokens goes over those of a value to
where the value belongs (`Reader.run_tokens`); and the tokens that it has read can be told from what
it is waiting for (`Reader.read`, `Reader.read_of_step`). So tokens are read as a value exactly if
they are its own (`ofTokens?_eq_some_iff`), and a text as the value that it spells
(`parse?_eq_some_iff`).
-/

namespace DexTriage.Json

/-- Induction on a value, which holds of all values within a list or an object before. -/
lemma value_induction {motive : Json → Prop} (null : motive .null) (bool : ∀ b, motive (.bool b))
    (number : ∀ n, motive (.number n)) (text : ∀ content, motive (.text content))
    (list : ∀ items, (∀ item ∈ items, motive item) → motive (.list items))
    (object : ∀ members, (∀ member ∈ members, motive member.2) → motive (.object members))
    (json : Json) : motive json := by
  refine @Json.rec motive (fun items => ∀ item ∈ items, motive item)
    (fun members => ∀ member ∈ members, motive member.2) (fun member => motive member.2)
    null bool number text list object nofun ?_ nofun ?_ (fun _ _ holds => holds) json
  · exact fun _ _ first others => List.forall_mem_cons.2 ⟨first, others⟩
  · exact fun _ _ first others => List.forall_mem_cons.2 ⟨first, others⟩

/-- Rows of tokens with commas between them. -/
def separated : List (List Token) → List Token
  | [] => []
  | first :: others => first ++ others.flatMap (.comma :: ·)

mutual

/-- The tokens of a value. -/
def tokens : Json → List Token
  | null => [.null]
  | bool b => [.bool b]
  | number n => [.number n]
  | text content => [.text content]
  | list items => .openList :: separated (itemTokens items) ++ [.closeList]
  | object members => .openObject :: separated (memberTokens members) ++ [.closeObject]

/-- The tokens of each item of a list. -/
def itemTokens : List Json → List (List Token)
  | [] => []
  | item :: items => tokens item :: itemTokens items

/-- The tokens of each member of an object. -/
def memberTokens : List (Content × Json) → List (List Token)
  | [] => []
  | (key, value) :: members => (.text key :: .colon :: tokens value) :: memberTokens members

end

/-- The tokens of a member. -/
def tokensOfMember (member : Content × Json) : List Token :=
  .text member.1 :: .colon :: member.2.tokens

/-- The tokens of a list. -/
lemma tokens_list (items : List Json) :
    (list items).tokens = .openList :: separated (items.map tokens) ++ [.closeList] := by
  have map : itemTokens items = items.map tokens := by
    induction items with
    | nil => rfl
    | cons item items ih => rw [itemTokens, ih, List.map_cons]
  rw [tokens, map]

/-- The tokens of an object. -/
lemma tokens_object (members : List (Content × Json)) :
    (object members).tokens =
      .openObject :: separated (members.map tokensOfMember) ++ [.closeObject] := by
  have map : memberTokens members = members.map tokensOfMember := by
    induction members with
    | nil => rfl
    | cons member members ih => rw [memberTokens, ih, List.map_cons, tokensOfMember]
  rw [tokens, map]

/-- A comma in front of each row and one at the end are one in front and one behind each row. -/
lemma flatMap_commas (rows : List (List Token)) :
    rows.flatMap (.comma :: ·) ++ [.comma] = .comma :: rows.flatMap (· ++ [.comma]) := by
  induction rows with
  | nil => rfl
  | cons row rows ih =>
    rw [List.flatMap_cons, List.flatMap_cons, List.append_assoc, ih, List.append_assoc]
    rfl

/-- With one more comma, there is one behind each row. -/
lemma separated_comma {rows : List (List Token)} (some : rows ≠ []) :
    separated rows ++ [.comma] = rows.flatMap (· ++ [.comma]) := by
  obtain ⟨first, others, rfl⟩ := List.exists_cons_of_ne_nil some
  rw [separated, List.append_assoc, flatMap_commas, List.flatMap_cons, List.append_assoc]
  rfl

/-- The last row stands behind a comma for each of the others. -/
lemma separated_concat (rows : List (List Token)) (last : List Token) :
    separated (rows ++ [last]) = rows.flatMap (· ++ [.comma]) ++ last := by
  cases rows with
  | nil => exact List.append_nil last
  | cons first others =>
    rw [← separated_comma (List.cons_ne_nil first others)]
    simp [separated]

/-- No value begins with the end of a list. -/
lemma head_tokens (json : Json) :
    ∃ first rest, json.tokens = first :: rest ∧ first ≠ .closeList := by
  cases json with
  | list items => exact ⟨_, _, tokens_list items, nofun⟩
  | object members => exact ⟨_, _, tokens_object members, nofun⟩
  | _ => exact ⟨_, _, rfl, nofun⟩

/-- The tokens that have been read of a list or an object that is still open. -/
def Frame.read : Frame → List Token
  | .list done => .openList :: (done.reverse.map tokens).flatMap (· ++ [.comma])
  | .object done key =>
    .openObject :: (done.reverse.map tokensOfMember).flatMap (· ++ [.comma]) ++ [.text key, .colon]

/-- The tokens that have been read of all that is still open. -/
def readOfFrames : List Frame → List Token
  | [] => []
  | frame :: frames => readOfFrames frames ++ frame.read

namespace Reader

/-- The value that a machine gives for tokens. -/
def run (reader : Reader) (tokens : List Token) : Option Json :=
  (tokens.foldlM step reader).bind finish?

/-- A machine goes on behind the first token. -/
lemma run_cons (reader : Reader) (token : Token) (tokens : List Token) :
    reader.run (token :: tokens) = (reader.step token).bind fun next => next.run tokens := by
  rw [run, List.foldlM_cons, Option.bind_eq_bind, Option.bind_assoc]
  rfl

/-- The first item of a list is read as any other value. -/
lemma run_firstItem (json : Json) (frames : List Frame) (rest : List Token) :
    run (.awaitFirstItem frames) (json.tokens ++ rest) =
      run (.awaitValue (.list [] :: frames)) (json.tokens ++ rest) := by
  obtain ⟨first, others, eq, open'⟩ := json.head_tokens
  rw [eq, List.cons_append, run_cons, run_cons]
  have same :
      step (.awaitFirstItem frames) first = step (.awaitValue (.list [] :: frames)) first := by
    cases first with
    | closeList => exact absurd rfl open'
    | _ => rfl
  rw [same]

/-- The items behind the first one are added to a list, up to its end. -/
lemma run_items {items : List Json}
    (values : ∀ item ∈ items, ∀ frames rest,
      run (.awaitValue frames) (item.tokens ++ rest) = run (complete item frames) rest)
    (done : List Json) (frames : List Frame) (rest : List Token) :
    run (.behindItem done frames)
        ((items.map tokens).flatMap (.comma :: ·) ++ .closeList :: rest) =
      run (complete (.list (done.reverse ++ items)) frames) rest := by
  induction items generalizing done with
  | nil =>
    rw [List.append_nil]
    rfl
  | cons item items ih =>
    obtain ⟨value, values⟩ := List.forall_mem_cons.1 values
    have comma tokens : run (.behindItem done frames) (.comma :: tokens) =
        run (.awaitValue (.list done :: frames)) tokens := rfl
    simp only [List.map_cons, List.flatMap_cons, List.cons_append, List.append_assoc]
    rw [comma, value, complete, ih values, List.reverse_cons, List.append_assoc,
      List.singleton_append]

/-- The members behind the first one are added to an object, up to its end. -/
lemma run_members {members : List (Content × Json)}
    (values : ∀ member ∈ members, ∀ frames rest,
      run (.awaitValue frames) (member.2.tokens ++ rest) = run (complete member.2 frames) rest)
    (done : List (Content × Json)) (frames : List Frame) (rest : List Token) :
    run (.behindMember done frames)
        ((members.map tokensOfMember).flatMap (.comma :: ·) ++ .closeObject :: rest) =
      run (complete (.object (done.reverse ++ members)) frames) rest := by
  induction members generalizing done with
  | nil =>
    rw [List.append_nil]
    rfl
  | cons member members ih =>
    obtain ⟨value, values⟩ := List.forall_mem_cons.1 values
    have key tokens : run (.behindMember done frames)
        (.comma :: .text member.1 :: .colon :: tokens) =
        run (.awaitValue (.object done member.1 :: frames)) tokens := rfl
    simp only [List.map_cons, List.flatMap_cons, tokensOfMember, List.cons_append,
      List.append_assoc]
    rw [key, value, complete, ih values, List.reverse_cons, List.append_assoc,
      List.singleton_append]

/-- A machine that waits for a value goes over its tokens to where the value belongs. -/
lemma run_tokens (json : Json) (frames : List Frame) (rest : List Token) :
    run (.awaitValue frames) (json.tokens ++ rest) = run (complete json frames) rest := by
  induction json using value_induction generalizing frames rest with
  | null => rfl
  | bool => rfl
  | number => rfl
  | text => rfl
  | list items values =>
    rw [tokens_list]
    cases items with
    | nil => rfl
    | cons item items =>
      obtain ⟨value, values⟩ := List.forall_mem_cons.1 values
      have opened tokens : run (.awaitValue frames) (.openList :: tokens) =
          run (.awaitFirstItem frames) tokens := rfl
      -- the first item stands where the list could end, and each of the others behind a comma
      simp only [List.map_cons, separated, List.cons_append, List.append_assoc, List.nil_append]
      rw [opened, run_firstItem, value, complete, run_items values]
      rfl
  | object members values =>
    rw [tokens_object]
    cases members with
    | nil => rfl
    | cons member members =>
      obtain ⟨value, values⟩ := List.forall_mem_cons.1 values
      have opened tokens : run (.awaitValue frames)
          (.openObject :: .text member.1 :: .colon :: tokens) =
          run (.awaitValue (.object [] member.1 :: frames)) tokens := rfl
      simp only [List.map_cons, separated, tokensOfMember, List.cons_append, List.append_assoc,
        List.nil_append]
      rw [opened, value, complete, run_members values]
      rfl

/-- The tokens that a machine has read. -/
def read : Reader → List Token
  | awaitValue frames => readOfFrames frames
  | awaitFirstItem frames => readOfFrames frames ++ [.openList]
  | behindItem done frames =>
    readOfFrames frames ++ .openList :: separated (done.reverse.map tokens)
  | awaitFirstKey frames => readOfFrames frames ++ [.openObject]
  | awaitKey done frames =>
    readOfFrames frames ++
      .openObject :: (done.reverse.map tokensOfMember).flatMap (· ++ [.comma])
  | awaitColon done key frames =>
    readOfFrames frames ++
      .openObject :: (done.reverse.map tokensOfMember).flatMap (· ++ [.comma]) ++ [.text key]
  | behindMember done frames =>
    readOfFrames frames ++ .openObject :: separated (done.reverse.map tokensOfMember)
  | finished json => json.tokens

/-- A machine behind an item or a member has read one. -/
def IsBegun : Reader → Prop
  | behindItem done _ => done ≠ []
  | behindMember done _ => done ≠ []
  | _ => True

/-- A value that is put where it belongs has been read behind what was read before. -/
lemma read_complete (json : Json) (frames : List Frame) :
    (complete json frames).IsBegun ∧
      (complete json frames).read = readOfFrames frames ++ json.tokens := by
  cases frames with
  | nil => exact ⟨trivial, rfl⟩
  | cons frame frames =>
    cases frame with
    | list done =>
      refine ⟨List.cons_ne_nil json done, ?_⟩
      rw [complete, read, readOfFrames, Frame.read, List.reverse_cons, List.map_append,
        List.map_singleton, separated_concat, List.append_assoc, List.cons_append]
    | object done key =>
      refine ⟨List.cons_ne_nil (key, json) done, ?_⟩
      rw [complete, read, readOfFrames, Frame.read, List.reverse_cons, List.map_append,
        List.map_singleton, separated_concat, tokensOfMember]
      simp

/-- The first token of a value has been read behind what was read before. -/
lemma read_of_open? {frames token next} (opened : open? frames token = some next) :
    next.IsBegun ∧ next.read = readOfFrames frames ++ [token] := by
  cases token with
  | null => cases opened; exact read_complete .null frames
  | bool b => cases opened; exact read_complete (.bool b) frames
  | number n => cases opened; exact read_complete (.number n) frames
  | text content => cases opened; exact read_complete (.text content) frames
  | openList => cases opened; exact ⟨trivial, rfl⟩
  | openObject => cases opened; exact ⟨trivial, rfl⟩
  | closeList => cases opened
  | closeObject => cases opened
  | comma => cases opened
  | colon => cases opened

/-- A step reads a token. -/
lemma read_of_step {reader token next} (begun : reader.IsBegun)
    (stepped : step reader token = some next) :
    next.IsBegun ∧ next.read = reader.read ++ [token] := by
  -- one case for each thing to wait for and each token that it allows
  rw [step.eq_def] at stepped
  split at stepped
  case h_1 => exact read_of_open? stepped
  case h_2 frames =>
    cases stepped
    obtain ⟨begun', eq⟩ := read_complete (.list []) frames
    exact ⟨begun', eq.trans (List.append_assoc _ [Token.openList] _).symm⟩
  case h_3 => exact read_of_open? stepped
  case h_4 done frames =>
    cases stepped
    refine ⟨trivial, ?_⟩
    have some : done.reverse.map tokens ≠ [] := by simpa [IsBegun] using begun
    rw [read, read, readOfFrames, Frame.read, List.append_assoc, List.cons_append,
      separated_comma some]
  case h_5 done frames =>
    cases stepped
    obtain ⟨begun', eq⟩ := read_complete (.list done.reverse) frames
    refine ⟨begun', eq.trans ?_⟩
    rw [tokens_list, read, List.append_assoc]
  case h_6 frames =>
    cases stepped
    obtain ⟨begun', eq⟩ := read_complete (.object []) frames
    exact ⟨begun', eq.trans (List.append_assoc _ [Token.openObject] _).symm⟩
  case h_7 =>
    cases stepped
    exact ⟨trivial, rfl⟩
  case h_8 =>
    cases stepped
    exact ⟨trivial, rfl⟩
  case h_9 =>
    cases stepped
    refine ⟨trivial, ?_⟩
    rw [read, read, readOfFrames, Frame.read]
    simp
  case h_10 done frames =>
    cases stepped
    refine ⟨trivial, ?_⟩
    have some : done.reverse.map tokensOfMember ≠ [] := by simpa [IsBegun] using begun
    rw [read, read, List.append_assoc, List.cons_append, separated_comma some]
  case h_11 done frames =>
    cases stepped
    obtain ⟨begun', eq⟩ := read_complete (.object done.reverse) frames
    refine ⟨begun', eq.trans ?_⟩
    rw [tokens_object, read, List.append_assoc]
  case h_12 => cases stepped

/-- A value that a machine gives has the tokens that it has read. -/
lemma tokens_of_run {reader tokens json} (begun : reader.IsBegun)
    (ran : run reader tokens = some json) : json.tokens = reader.read ++ tokens := by
  induction tokens generalizing reader with
  | nil =>
    cases reader with
    | finished => cases ran; exact (List.append_nil _).symm
    | _ => cases ran
  | cons token tokens ih =>
    rw [run_cons, Option.bind_eq_some_iff] at ran
    obtain ⟨next, stepped, ran⟩ := ran
    obtain ⟨begun', read⟩ := read_of_step begun stepped
    rw [ih begun' ran, read, List.append_assoc, List.singleton_append]

end Reader

/-- Tokens are read as a value exactly if they are its own. -/
lemma ofTokens?_eq_some_iff {row : List Token} {json : Json} :
    ofTokens? row = some json ↔ row = json.tokens := by
  have run : ofTokens? row = Reader.run (.awaitValue []) row := rfl
  rw [run]
  constructor
  · intro ran
    have begun : Reader.IsBegun (.awaitValue []) := trivial
    exact (Reader.tokens_of_run begun ran).symm
  · rintro rfl
    have ran := Reader.run_tokens json [] []
    rwa [List.append_nil] at ran

/-- A text spells a value if it spells its tokens. -/
def Spells (text : List Char) (json : Json) : Prop :=
  SpellsTokens text json.tokens

/-- A text is read as a value exactly if it spells that value. -/
lemma parse?_eq_some_iff {text : String} {json : Json} :
    parse? text = some json ↔ Spells text.toList json := by
  rw [parse?, Option.bind_eq_bind, Option.bind_eq_some_iff]
  constructor
  · rintro ⟨row, cut, read⟩
    obtain rfl := ofTokens?_eq_some_iff.1 read
    exact tokens?_eq_some_iff.1 cut
  · intro spells
    exact ⟨json.tokens, tokens?_eq_some_iff.2 spells, ofTokens?_eq_some_iff.2 rfl⟩

end DexTriage.Json
