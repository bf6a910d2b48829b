/-!
# Syntax trees of patterns

What a pattern says, before flags and properties are looked at. Sequences, alternatives and unions
lean to the right: the second part is the rest of the same list, or its last member.
-/

namespace DexTriage.Pattern

/-- A switch that a pattern can turn on and off. -/
inductive Flag where
  | ignoreCase
  | multiLine
  | dotAll
  | swapGreed
  | unicode
  | anyLineEnd
  | verbose
  deriving DecidableEq, Repr

/-- The letter of a flag. -/
def Flag.ofChar? : Char → Option Flag
  | 'i' => some ignoreCase
  | 'm' => some multiLine
  | 's' => some dotAll
  | 'U' => some swapGreed
  | 'u' => some unicode
  | 'R' => some anyLineEnd
  | 'x' => some verbose
  | _ => none

/-- Flags that are turned on or off. -/
abbrev FlagChange := List (Flag × Bool)

/-- What a change makes of a flag that was `old`. -/
def FlagChange.get (change : FlagChange) (flag : Flag) (old : Bool) : Bool :=
  (List.lookup flag change).getD old

/-- A character as written in a pattern. -/
structure Literal where
  char : Char
  /-- Whether it is written as the two digits of a byte. -/
  isByte : Bool
  deriving DecidableEq, Repr

/-- A condition at a position, as written in a pattern. -/
inductive Assertion where
  | lineStart
  | lineEnd
  | textStart
  | textEnd
  | wordBoundary
  | notWordBoundary
  | wordStart
  | wordEnd
  | wordStartHalf
  | wordEndHalf
  deriving DecidableEq, Repr

/-- The classes with a letter of their own. -/
inductive LetterClass where
  | digit
  | space
  | word
  deriving DecidableEq, Repr

/-- A question about a Unicode property. -/
inductive PropertyQuery where
  | named (name : String)
  | valued (property value : String)
  deriving DecidableEq, Repr

/-- What may stand between the brackets of a class. -/
inductive SetItem where
  | empty
  | literal (literal : Literal)
  | range (first last : Literal)
  /-- A class of ASCII characters, as the ranges it consists of. -/
  | ascii (ranges : List (Nat × Nat)) (negated : Bool)
  | letterClass (kind : LetterClass) (negated : Bool)
  | property (query : PropertyQuery) (negated : Bool)
  | bracket (negated : Bool) (inner : SetItem)
  | union (left right : SetItem)
  | inter (left right : SetItem)
  | diff (left right : SetItem)
  | symmDiff (left right : SetItem)
  deriving DecidableEq, Repr

/-- The union of a list of items. -/
def SetItem.ofList : List SetItem → SetItem
  | [] => empty
  | [item] => item
  | item :: items => union item (ofList items)

/-- What an escape or a plain character stands for. -/
inductive Primitive where
  | literal (literal : Literal)
  | assertion (assertion : Assertion)
  | letterClass (kind : LetterClass) (negated : Bool)
  | property (query : PropertyQuery) (negated : Bool)
  deriving DecidableEq, Repr

/-- The syntax tree of a pattern. -/
inductive Ast where
  | empty
  /-- Flags that hold from here to the end of the group. -/
  | flags (change : FlagChange)
  | dot
  | primitive (primitive : Primitive)
  | bracket (negated : Bool) (inner : SetItem)
  | repetition (body : Ast) (least : Nat) (most : Option Nat)
  | group (change : FlagChange) (body : Ast)
  | seq (first rest : Ast)
  | alt (first rest : Ast)
  deriving DecidableEq, Repr

/-- The sequence of a list of trees. -/
def Ast.sequence : List Ast → Ast
  | [] => empty
  | [item] => item
  | item :: items => seq item (sequence items)

/-- The choice between a list of trees. -/
def Ast.choice : List Ast → Ast
  | [] => empty
  | [item] => item
  | item :: items => alt item (choice items)

/-- How deep an item is nested; `inUnion` says whether it goes on with a union. -/
def SetItem.depth : (inUnion : Bool) → SetItem → Nat
  | _, bracket _ inner => inner.depth false + 1
  | inUnion, union left right =>
    max (left.depth false) (right.depth true) + (if inUnion then 0 else 1)
  | _, inter left right | _, diff left right | _, symmDiff left right =>
    max (left.depth false) (right.depth false) + 1
  | _, _ => 0

/-- How deep a tree is nested; `inSeq` and `inAlt` say whether it goes on with a sequence or with
alternatives. -/
def Ast.depth : (inSeq inAlt : Bool) → Ast → Nat
  | _, _, bracket _ inner => inner.depth false + 1
  | _, _, repetition body _ _ => body.depth false false + 1
  | _, _, group _ body => body.depth false false + 1
  | inSeq, _, seq first rest =>
    max (first.depth false false) (rest.depth true false) + (if inSeq then 0 else 1)
  | _, inAlt, alt first rest =>
    max (first.depth false false) (rest.depth false true) + (if inAlt then 0 else 1)
  | _, _, _ => 0

/-- The deepest nesting that a pattern may have. -/
def nestLimit : Nat := 250

end DexTriage.Pattern
