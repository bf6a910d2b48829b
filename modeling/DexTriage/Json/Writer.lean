import DexTriage.Json.Value

/-!
# Writing JSON

A value is written on one line without blanks, or over several lines with two blanks for each
level. In texts, quotes, backslashes and controls are escaped, and everything else stands as it
is.
-/

namespace DexTriage.Json

/-- A character within quotes. -/
def writeChar (c : Char) : List Char :=
  if c = '"' then ['\\', '"']
  else if c = '\\' then ['\\', '\\']
  else if c = '\x08' then ['\\', 'b']
  else if c = '\x0c' then ['\\', 'f']
  else if c = '\n' then ['\\', 'n']
  else if c = '\r' then ['\\', 'r']
  else if c = '\t' then ['\\', 't']
  else if c.toNat < 0x20 then
    ['\\', 'u', '0', '0', Nat.digitChar (c.toNat / 16), Nat.digitChar (c.toNat % 16)]
  else [c]

/-- A text in quotes; a content without value is written as the empty text. -/
def writeContent (content : Content) : List Char :=
  '"' :: (content.getD "").toList.flatMap writeChar ++ ['"']

/-- The line break and the blanks before something at a level, or nothing on a single line. -/
def lineBreak (pretty : Bool) (level : Nat) : List Char :=
  if pretty then '\n' :: List.replicate (2 * level) ' ' else []

/-- What stands between a key and its value. -/
def colonText (pretty : Bool) : List Char :=
  if pretty then [':', ' '] else [':']

mutual

/-- The text of a value at a level. -/
def write (pretty : Bool) : (level : Nat) → Json → List Char
  | _, null => ['n', 'u', 'l', 'l']
  | _, bool true => ['t', 'r', 'u', 'e']
  | _, bool false => ['f', 'a', 'l', 's', 'e']
  | _, number n => n.toChars
  | _, text t => writeContent t
  | _, list [] => ['[', ']']
  | level, list (item :: items) =>
    '[' :: lineBreak pretty (level + 1) ++ write pretty (level + 1) item
      ++ writeItems pretty (level + 1) items ++ lineBreak pretty level ++ [']']
  | _, object [] => ['\x7b', '\x7d']
  | level, object ((key, value) :: members) =>
    '\x7b' :: lineBreak pretty (level + 1) ++ writeContent key ++ colonText pretty
      ++ write pretty (level + 1) value
      ++ writeMembers pretty (level + 1) members ++ lineBreak pretty level ++ ['\x7d']

/-- The text of the values of a list behind the first one. -/
def writeItems (pretty : Bool) : (level : Nat) → List Json → List Char
  | _, [] => []
  | level, item :: items =>
    ',' :: lineBreak pretty level ++ write pretty level item ++ writeItems pretty level items

/-- The text of the members of an object behind the first one. -/
def writeMembers (pretty : Bool) : (level : Nat) → List (Content × Json) → List Char
  | _, [] => []
  | level, (key, value) :: members =>
    ',' :: lineBreak pretty level ++ writeContent key ++ colonText pretty
      ++ write pretty level value ++ writeMembers pretty level members

end

/-- The text of a value on one line. -/
def compact (json : Json) : String :=
  String.ofList (json.write false 0)

/-- The text of a value over several lines. -/
def indented (json : Json) : String :=
  String.ofList (json.write true 0)

end DexTriage.Json
