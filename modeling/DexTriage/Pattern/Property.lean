import DexTriage.Pattern.Ast
import DexTriage.Pattern.Segmentation
import DexTriage.Unicode.Age
import DexTriage.Unicode.Class

/-!
# Properties in patterns

The set of characters that a pattern asks for by the name of a property. Names are compared loosely:
without regard to case, blanks, dashes, underscores, characters outside ASCII, and a leading `is`.
-/

namespace DexTriage.Pattern

open DexTriage.Unicode

/-- The loose form of a name. The name `isc` keeps its `is`, for it is the name of a property, and
not another one for the category `c`. -/
def looseName (name : String) : String :=
  let chars := name.toList
  let hasIs := (chars.take 2).map Char.toLower = ['i', 's']
  let chars := if hasIs then chars.drop 2 else chars
  let loose := (chars.filter fun c => c.toNat < 128 && !(c = ' ' || c = '-' || c = '_')).map
    Char.toLower
  if hasIs && loose = ['c'] then "isc" else String.ofList loose

/-- The characters that have a meaning since a version of Unicode or longer. -/
def age? (name : String) : Option CharSet :=
  let later := ages.dropWhile fun entry => !entry.names.contains name
  if later.isEmpty then none
  else
    some (CharSet.unions
      ((ages.take (ages.length + 1 - later.length)).map fun entry => .ofText entry.text))

/-- The set that a query asks for. A name alone is that of a binary property, a category or a
script, in this order. -/
def PropertyQuery.set? : PropertyQuery → Option CharSet
  | named name =>
    let name := looseName name
    (property? name).or ((category? name).or (script? name))
  | valued property value =>
    let value := looseName value
    match looseName property with
    | "gc" | "generalcategory" => category? value
    | "sc" | "script" => script? value
    | "scx" | "scriptextensions" => scriptExtension? value
    | "age" => age? value
    | "gcb" | "graphemeclusterbreak" => graphemeBreak? value
    | "wb" | "wordbreak" => wordBreak? value
    | "sb" | "sentencebreak" => sentenceBreak? value
    | _ => none

/-- The set of a class with a letter of its own. -/
def LetterClass.set : LetterClass → CharSet
  | digit => .ranges digitRanges
  | space => .ranges blankRanges
  | word => .ranges wordRanges

/-- The ASCII characters in a class with a letter of its own. -/
def LetterClass.asciiSet : LetterClass → CharSet
  | digit => .ranges [(48, 57)]
  | space => .ranges [(9, 13), (32, 32)]
  | word => .ranges [(48, 57), (65, 90), (95, 95), (97, 122)]

end DexTriage.Pattern
