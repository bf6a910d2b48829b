import DexTriage.Json.Token

/-!
# JSON values

A value is read from tokens by a machine with a stack of the lists and objects that are still
open. Reading accepts the grammar and nothing else; what a reader may additionally insist on is the
predicate `Json.isStrict`: texts that have a value, numbers that stay finite, and a bounded depth.
-/

namespace DexTriage

open DexTriage.Json (Number Content Token)

/-- A JSON value. The members of an object are in the order in which they are written, and a key may
occur more than once. -/
inductive Json where
  | null
  | bool (value : Bool)
  | number (number : Number)
  | text (content : Content)
  | list (items : List Json)
  | object (members : List (Content × Json))
  deriving Repr, Inhabited

namespace Json

/-- A natural number as a value. -/
def ofNat (n : Nat) : Json := .number (.ofNat n)

/-- A text as a value. -/
def ofString (text : String) : Json := .text (some text)

/-- A list of texts as a value. -/
def ofStrings (texts : List String) : Json := .list (texts.map ofString)

/-- An object with members in the given order. -/
def ofMembers (members : List (String × Json)) : Json :=
  .object (members.map fun (key, value) => (some key, value))

/-- A list or an object that is still open, with what it holds so far, the last one first. -/
inductive Frame where
  | list (done : List Json)
  | object (done : List (Content × Json)) (key : Content)

/-- What the machine is waiting for. -/
inductive Reader where
  /-- A value. -/
  | awaitValue (frames : List Frame)
  /-- The first value of a list, or its end. -/
  | awaitFirstItem (frames : List Frame)
  /-- A comma, or the end of a list. -/
  | behindItem (done : List Json) (frames : List Frame)
  /-- The first key of an object, or its end. -/
  | awaitFirstKey (frames : List Frame)
  /-- A key. -/
  | awaitKey (done : List (Content × Json)) (frames : List Frame)
  /-- A colon. -/
  | awaitColon (done : List (Content × Json)) (key : Content) (frames : List Frame)
  /-- A comma, or the end of an object. -/
  | behindMember (done : List (Content × Json)) (frames : List Frame)
  /-- Nothing more. -/
  | finished (json : Json)

namespace Reader

/-- Puts a finished value where it belongs. -/
def complete (json : Json) : List Frame → Reader
  | [] => .finished json
  | .list done :: frames => .behindItem (json :: done) frames
  | .object done key :: frames => .behindMember ((key, json) :: done) frames

/-- Takes in the first token of a value. -/
def open? (frames : List Frame) : Token → Option Reader
  | .null => some (complete .null frames)
  | .bool b => some (complete (.bool b) frames)
  | .number n => some (complete (.number n) frames)
  | .text t => some (complete (.text t) frames)
  | .openList => some (.awaitFirstItem frames)
  | .openObject => some (.awaitFirstKey frames)
  | _ => none

/-- Takes in a token. -/
def step : Reader → Token → Option Reader
  | awaitValue frames, token => open? frames token
  | awaitFirstItem frames, .closeList => some (complete (.list []) frames)
  | awaitFirstItem frames, token => open? (.list [] :: frames) token
  | behindItem done frames, .comma => some (.awaitValue (.list done :: frames))
  | behindItem done frames, .closeList => some (complete (.list done.reverse) frames)
  | awaitFirstKey frames, .closeObject => some (complete (.object []) frames)
  | awaitFirstKey frames, .text t => some (.awaitColon [] t frames)
  | awaitKey done frames, .text t => some (.awaitColon done t frames)
  | awaitColon done key frames, .colon => some (.awaitValue (.object done key :: frames))
  | behindMember done frames, .comma => some (.awaitKey done frames)
  | behindMember done frames, .closeObject => some (complete (.object done.reverse) frames)
  | _, _ => none

/-- The value at the end of the tokens. -/
def finish? : Reader → Option Json
  | finished json => some json
  | _ => none

end Reader

/-- The value that tokens spell. -/
def ofTokens? (tokens : List Token) : Option Json := do
  (← tokens.foldlM Reader.step (.awaitValue [])).finish?

/-- The value that a text spells. -/
def parse? (text : String) : Option Json := do
  ofTokens? (← tokens? text.toList)

/-- The deepest nesting of lists and objects that a strict reader takes. -/
def depthLimit : Nat := 127

mutual

/-- Whether a strict reader takes a value that may nest `depth` lists and objects. -/
def isStrictWithin : (depth : Nat) → Json → Bool
  | _, null | _, bool _ => true
  | _, number n => n.isFinite
  | _, text t => t.isSome
  | 0, list _ | 0, object _ => false
  | depth + 1, list items => areStrictWithin depth items
  | depth + 1, object members => areMembersStrictWithin depth members

/-- Whether a strict reader takes all of some values. -/
def areStrictWithin : (depth : Nat) → List Json → Bool
  | _, [] => true
  | depth, item :: items => isStrictWithin depth item && areStrictWithin depth items

/-- Whether a strict reader takes all of some members. -/
def areMembersStrictWithin : (depth : Nat) → List (Content × Json) → Bool
  | _, [] => true
  | depth, (key, value) :: members =>
    key.isSome && isStrictWithin depth value && areMembersStrictWithin depth members

end

/-- Whether a strict reader takes a value. -/
def isStrict (json : Json) : Bool :=
  json.isStrictWithin depthLimit

end Json

end DexTriage
