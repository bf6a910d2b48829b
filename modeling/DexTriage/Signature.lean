import DexTriage.Pattern.Compile

/-!
# Signatures

A signature puts a label on the texts that its pattern matches as a whole.
-/

namespace DexTriage

/-- What a text is compared with. -/
inductive Matcher where
  /-- The text itself. -/
  | literal (text : String)
  /-- A pattern as it was compiled, and its expression. -/
  | regex (source : String) (regex : Pattern.Regex)
  deriving DecidableEq, Repr

namespace Matcher

/-- Compiles a pattern that a text has to match as a whole. -/
def compile? (pattern : String) : Option Matcher :=
  (Pattern.Regex.compile (Pattern.anchored pattern)).map (regex (Pattern.anchored pattern))

/-- Whether a text matches. -/
def isMatch : Matcher → String → Bool
  | literal expected, text => expected == text
  | regex _ r, text => r.isMatch text

end Matcher

/-- A pattern and the label of the texts that it matches. -/
structure Signature where
  label : String
  matcher : Matcher
  deriving DecidableEq, Repr

end DexTriage
