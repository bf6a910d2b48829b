import DexTriage.Unicode.Class
import DexTriage.Unicode.Fold

/-!
# Addresses within a text

An address starts at a known scheme that does not go on with a word, needs at least one character
behind the scheme, and extends as far as there is no white space, quote or angle bracket. A scheme
counts in any case, and only with `://` behind it. Several addresses may be joined by a comma, a
semicolon or a bar; `pieces` takes them apart.

A sentence that mentions an address goes on behind it. `trim` cuts trailing punctuation off, one
character after the other, up to a closing bracket that the address itself opened.
-/

namespace DexTriage.Url

/-- The known schemes, in lower case. -/
def schemes : List String :=
  ["http", "https", "ftp", "ftps", "sftp", "file", "content", "rtsp", "rtmp", "ws", "wss",
    "market", "intent", "jdbc", "ldap", "smb", "git", "ssh", "tcp", "udp"]

/-- What stands between a scheme and the rest of an address. -/
def schemeMark : String := "://"

/-- What is left of a text behind the known scheme, and its mark, that the text starts with. -/
def dropScheme? (text : List Char) : Option (List Char) :=
  schemes.findSome? fun scheme => Unicode.dropFolded? (scheme ++ schemeMark).toList text

/-- Whether a text starts with a known scheme and its mark. -/
def startsWithScheme (text : List Char) : Bool :=
  (dropScheme? text).isSome

/-- Punctuation that does not end an address. -/
def trailingPunctuation : List Char := ['.', ',', ';', ':', '!', '?', ')', ']', '}']

/-- The bracket that a closing bracket closes. -/
def openingBracket? : Char → Option Char
  | ')' => some '('
  | ']' => some '['
  | '}' => some '{'
  | _ => none

/-- Whether the last character of a text is a closing bracket that the text opens often enough. -/
def closesBracket (last : Char) (text : List Char) : Bool :=
  match openingBracket? last with
  | some opening => text.count last ≤ text.count opening
  | none => false

/-- A text read backwards, without its trailing punctuation. -/
def trimBackwards : List Char → List Char
  | [] => []
  | last :: before =>
    if trailingPunctuation.contains last && !closesBracket last (last :: before) then
      trimBackwards before
    else
      last :: before

/-- A text without its trailing punctuation. -/
def trim (text : List Char) : List Char :=
  (trimBackwards text.reverse).reverse

/-- Whether a character can be part of an address. -/
def isUrlChar (c : Char) : Bool :=
  !(Unicode.isBlank c || c = '"' || c = '\'' || c = '<' || c = '>')

/-- Whether a text starts with an address. -/
def startsWithUrl (text : List Char) : Bool :=
  match dropScheme? text with
  | some (c :: _) => isUrlChar c
  | _ => false

/-- The stretches of a text that start with an address, taken from left to right, each as long as
it can be. `inWord` says whether the text goes on with a word. -/
def stretches : (inWord : Bool) → List Char → List (List Char)
  | _, [] => []
  | inWord, c :: text =>
    if !inWord && startsWithUrl (c :: text) then
      -- what follows a stretch starts no address, so that no word needs to be kept in mind
      (c :: text.takeWhile isUrlChar) :: stretches false (text.dropWhile isUrlChar)
    else
      stretches (Unicode.isWord c) text
termination_by _ text => text.length
decreasing_by
  · exact Nat.lt_succ_of_le (List.dropWhile_suffix isUrlChar).length_le
  · exact Nat.lt_succ_self _

/-- Whether a character can join two addresses. -/
def isSeparator (c : Char) : Bool :=
  c = ',' || c = ';' || c = '|'

/-- The parts of a stretch between the separators that directly precede a scheme. -/
def pieces : List Char → List (List Char)
  | [] => [[]]
  | c :: text =>
    if isSeparator c && startsWithScheme text then
      [] :: pieces text
    else
      match pieces text with
      | [] => [[c]]
      | piece :: others => (c :: piece) :: others

/-- The addresses within a text, in order; what ends with a bare scheme is none. -/
def ofText (text : String) : List String :=
  (stretches false text.toList).flatMap fun stretch =>
    ((pieces stretch).map trim).filterMap fun url =>
      if schemeMark.toList.isSuffixOf url then none else some (String.ofList url)

/-- The addresses within any of the texts, each where it is first seen. -/
def find (texts : List String) : List String :=
  (texts.flatMap ofText).eraseDups

end DexTriage.Url
