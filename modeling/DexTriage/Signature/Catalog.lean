import DexTriage.Json.Value
import DexTriage.Signature
import DexTriage.Text.Quoted

/-!
# Catalogs of signatures

A catalog is a list of signatures. It is read from a JSON list of objects, each with a label and a
literal, or a label and a pattern; a key that counts must not be repeated, and others may hold
anything. All entries are read before any pattern is compiled.
-/

namespace DexTriage

/-- Why there is no catalog. -/
inductive CatalogError where
  /-- The text is no list of entries. -/
  | malformed
  /-- The pattern of the signature with a label does not compile. -/
  | invalidPattern (label : String)
  deriving DecidableEq, Repr

/-- The wording of an error. -/
def CatalogError.message : CatalogError → String
  | malformed => "can't parse signature catalog"
  | invalidPattern label => "invalid pattern for signature " ++ Text.quoted label

/-- Signatures in the order in which their labels are reported. -/
structure Catalog where
  signatures : List Signature := []
  deriving DecidableEq, Repr, Inhabited

namespace Catalog

/-- Adds a signature for a text. -/
def addLiteral (catalog : Catalog) (text label : String) : Catalog :=
  ⟨catalog.signatures ++ [⟨label, .literal text⟩]⟩

/-- Adds a signature for a pattern. -/
def addPattern (catalog : Catalog) (pattern label : String) : Except CatalogError Catalog :=
  match Matcher.compile? pattern with
  | some matcher => .ok ⟨catalog.signatures ++ [⟨label, matcher⟩]⟩
  | none => .error (.invalidPattern label)

/-- An entry of a catalog, of which the pattern is not yet compiled. -/
inductive Entry where
  | literal (label text : String)
  | pattern (label pattern : String)
  deriving DecidableEq, Repr

/-- The text that the only member with a key holds. -/
def uniqueText? (members : List (Json.Content × Json)) (key : String) : Option String :=
  match members.filter fun member => member.1 == some key with
  | [(_, .text (some text))] => some text
  | _ => none

/-- The entry that a JSON value describes; a literal goes before a pattern. -/
def Entry.ofJson? : Json → Option Entry
  | .object members => do
    let label ← uniqueText? members "label"
    match uniqueText? members "literal" with
    | some text => return .literal label text
    | none => return .pattern label (← uniqueText? members "regex")
  | _ => none

/-- The entries that a JSON value describes. -/
def entries? (json : Json) : Option (List Entry) :=
  if json.isStrict then
    match json with
    | .list items => items.mapM Entry.ofJson?
    | _ => none
  else
    none

/-- Adds the signature of an entry. -/
def add (catalog : Catalog) : Entry → Except CatalogError Catalog
  | .literal label text => .ok (catalog.addLiteral text label)
  | .pattern label pattern => catalog.addPattern pattern label

/-- The catalog that a JSON text describes. -/
def parse (text : String) : Except CatalogError Catalog :=
  match (Json.parse? text).bind entries? with
  | some entries => entries.foldlM add {}
  | none => .error .malformed

/-- The labels of the signatures that match a text, in the order of the catalog. -/
def labels (catalog : Catalog) (text : String) : List String :=
  (catalog.signatures.filter fun signature => signature.matcher.isMatch text).map Signature.label

/-- The labels of the signatures that match any of the texts, each where it is first found. -/
def find (catalog : Catalog) (texts : List String) : List String :=
  (texts.flatMap catalog.labels).eraseDups

end Catalog

end DexTriage
