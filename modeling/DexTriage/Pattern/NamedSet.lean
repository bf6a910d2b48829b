import DexTriage.Pattern.CharSet
import DexTriage.Unicode.Category
import DexTriage.Unicode.Property
import DexTriage.Unicode.Script
import DexTriage.Unicode.ScriptExtension

/-!
# Sets with a name

The sets of categories, scripts and binary properties by their names, which are in the loose form
in which they are compared.
-/

namespace DexTriage.Pattern

open DexTriage.Unicode

/-- The union of some sets. -/
def CharSet.unions (sets : List CharSet) : CharSet :=
  sets.foldr CharSet.union CharSet.empty

/-- The set of the ranges that a text lists. -/
def CharSet.ofText (text : String) : CharSet :=
  .ranges (Ranges.ofText text)

/-- The code points that have a category. -/
def assigned : CharSet :=
  CharSet.unions (categories.map fun entry => .ofText entry.text)

/-- The set of a single category; surrogates are no characters, and have none. -/
def singleCategory? (name : String) : Option CharSet :=
  if name = "cn" || name = "unassigned" then some (.compl assigned)
  else (NamedRanges.find? categories name).map CharSet.ranges

/-- The set of a category, or of several categories with a common name. -/
def category? (name : String) : Option CharSet :=
  match name with
  | "any" => some .any
  | "ascii" => some (.ranges [(0, 127)])
  | "assigned" => some assigned
  | _ =>
    match categoryGroups.find? fun (names, _) => names.contains name with
    | some (_, members) => some (CharSet.unions (members.filterMap singleCategory?))
    | none => singleCategory? name

/-- The set of a script. -/
def script? (name : String) : Option CharSet :=
  (NamedRanges.find? scripts name).map CharSet.ranges

/-- The set of the characters that are used with a script. -/
def scriptExtension? (name : String) : Option CharSet :=
  ((NamedRanges.find? scriptExtensions name).or (NamedRanges.find? scripts name)).map
    CharSet.ranges

/-- The set of a category that is known to have a name. -/
def categorySet (name : String) : CharSet :=
  (category? name).getD .empty

/-- The set of a script that is known to have a name. -/
def scriptSet (name : String) : CharSet :=
  (script? name).getD .empty

/-- The set of a binary property that is known to have a table. -/
def propertySet (name : String) : CharSet :=
  ((NamedRanges.find? properties name).map CharSet.ranges).getD .empty

/-- The set of a binary property that follows from others, or has only few members: the part of a
property that its main categories do not account for. -/
def derivedProperty? (name : String) : Option CharSet :=
  match name with
  | "oalpha" | "otheralphabetic" =>
    some (.diff (propertySet "alphabetic")
      (CharSet.union (categorySet "letter") (categorySet "nl")))
  | "olower" | "otherlowercase" => some (.diff (propertySet "lowercase") (categorySet "ll"))
  | "oupper" | "otheruppercase" => some (.diff (propertySet "uppercase") (categorySet "lu"))
  | "omath" | "othermath" => some (.diff (propertySet "math") (categorySet "sm"))
  | "ogrext" | "othergraphemeextend" =>
    some (.diff (propertySet "graphemeextend")
      (CharSet.union (categorySet "mn") (categorySet "me")))
  | "oids" | "otheridstart" => some (.ofText "1885-1886 2118 212E 309B-309C")
  | "oidc" | "otheridcontinue" =>
    some (.ofText "B7 387 1369-1371 19DA 200C-200D 30FB FF65")
  | "odi" | "otherdefaultignorablecodepoint" =>
    some (.ofText "34F 115F-1160 17B4-17B5 2065 3164 FFA0 FFF0-FFF8 E0000 E0002-E001F
      E0080-E00FF E01F0-E0FFF")
  | "idsu" | "idsunaryoperator" => some (.ofText "2FFE-2FFF")
  | "idcompatmathstart" =>
    some (.ofText "2202 2207 221E 1D6C1 1D6DB 1D6FB 1D715 1D735 1D74F 1D76F 1D789 1D7A9 1D7C3")
  | "idcompatmathcontinue" =>
    some (.ofText "B2-B3 B9 2070 2074-207E 2080-208E 2202 2207 221E 1D6C1 1D6DB 1D6FB 1D715
      1D735 1D74F 1D76F 1D789 1D7A9 1D7C3")
  | "mcm" | "modifiercombiningmark" =>
    some (.ofText "654-655 658 6DC 6E3 6E7-6E8 8CA-8CB 8CD-8CF 8D3 8F3")
  | "grlink" | "graphemelink" =>
    some (.ofText "94D 9CD A4D ACD B4D BCD C4D CCD D3B-D3C D4D DCA E3A EBA F84 1039-103A
      1714-1715 1734 17D2 1A60 1B44 1BAA-1BAB 1BF2-1BF3 2D7F A806 A82C A8C4 A953 A9C0 AAF6 ABED
      10A3F 11046 11070 1107F 110B9 11133-11134 111C0 11235 112EA 1134D 113CE-113D0 11442 114C2
      115BF 1163F 116B6 1172B 11839 1193D-1193E 119E0 11A34 11A47 11A99 11C3F 11D44-11D45 11D97
      11F41-11F42 1612F")
  | _ => none

/-- The set of a binary property. -/
def property? (name : String) : Option CharSet :=
  ((NamedRanges.find? properties name).map CharSet.ranges).or (derivedProperty? name)

end DexTriage.Pattern
