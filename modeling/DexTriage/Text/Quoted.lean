import DexTriage.Text.Hex
import DexTriage.Unicode.Printable

/-!
# Texts in messages

A text is shown on one line and so that nothing in it is invisible: some characters are named by a
backslash and a letter, and others by their code point in braces. In quotes, every character that
extends the one before it is named as well; in a listing only one that stands first.
-/

namespace DexTriage.Text

/-- A character named by its code point. -/
def codePoint (c : Char) : List Char :=
  ['\\', 'u', '\x7b'] ++ Nat.toDigits 16 c.toNat ++ ['\x7d']

/-- A character as it is shown, where `marks` are the quotation marks to be escaped, and
`extending` says whether characters that extend the one before are to be named. -/
def shown (marks : List Char) (extending : Bool) (c : Char) : List Char :=
  if c = '\x00' then ['\\', '0']
  else if c = '\t' then ['\\', 't']
  else if c = '\r' then ['\\', 'r']
  else if c = '\n' then ['\\', 'n']
  else if c = '\\' || marks.contains c then ['\\', c]
  else if extending && Unicode.isExtending c then codePoint c
  else if Unicode.isPrintable c then [c]
  else codePoint c

/-- A text in double quotes. -/
def quoted (text : String) : String :=
  String.ofList ('"' :: text.toList.flatMap (shown ['"'] true) ++ ['"'])

/-- A text as it is listed, without quotes around it. -/
def listed (text : String) : String :=
  match text.toList with
  | [] => ""
  | c :: rest =>
    String.ofList (shown ['"', '\''] true c ++ rest.flatMap (shown ['"', '\''] false))

end DexTriage.Text
