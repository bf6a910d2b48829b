import DexTriage.Pattern.NamedSet

/-!
# Segmentation

The properties of characters by which a text is divided into characters as a reader sees them, into
words and into sentences. Most of their values follow from categories and binary properties. Names
are in the loose form in which they are compared.
-/

namespace DexTriage.Pattern

/-- The zero width joiner. -/
def joiner : CharSet := .ofText "200D"

/-- The zero width non-joiner and the zero width joiner. -/
def joiners : CharSet := .ofText "200C-200D"

/-- The modifiers of skin colour. -/
def emojiModifier : CharSet := propertySet "emojimodifier"

/-- The characters that extend the one before them. -/
def graphemeExtend : CharSet := propertySet "graphemeextend"

/-- The marks that take up space of their own. -/
def spacingMark : CharSet := categorySet "mc"

/-- The syllables of Hangul that consist of two letters only. -/
def hangulPairs : CharSet :=
  .ranges ((List.range 399).map fun i => (0xAC00 + 28 * i, 0xAC00 + 28 * i))

/-- The syllables of Hangul. -/
def hangulSyllables : CharSet := .ofText "AC00-D7A3"

/-- The regional indicators. -/
def regionalIndicator : CharSet := .ofText "1F1E6-1F1FF"

/-- The set of a value of the property that divides a text into characters. -/
def graphemeBreak? (name : String) : Option CharSet :=
  match name with
  | "cr" => some (.ofText "D")
  | "lf" => some (.ofText "A")
  | "cn" | "control" =>
    some (.diff
      (CharSet.unions [categorySet "cc", categorySet "cf", categorySet "zl", categorySet "zp",
        .inter (categorySet "cn") (propertySet "defaultignorablecodepoint")])
      (CharSet.unions [.ofText "A D", joiners, graphemeExtend,
        propertySet "prependedconcatenationmark"]))
  | "ex" | "extend" => some (.diff (.union graphemeExtend emojiModifier) joiner)
  | "pp" | "prepend" =>
    some (.union (propertySet "prependedconcatenationmark")
      (.ofText "D4E 111C2-111C3 113D1 1193F 11941 11A3A 11A84-11A89 11D46 11F02"))
  | "sm" | "spacingmark" =>
    some (.diff (.union spacingMark (.ofText "E33 EB3"))
      (.union graphemeExtend
        (.ofText "102B-102C 1038 1062-1064 1067-106D 1083 1087-108C 108F 109A-109C 1A61
          1A63-1A64 AA7B AA7D 11720-11721")))
  | "l" => some (.ofText "1100-115F A960-A97C")
  | "v" => some (.ofText "1160-11A7 D7B0-D7C6 16D63 16D67-16D6A")
  | "t" => some (.ofText "11A8-11FF D7CB-D7FB")
  | "lv" => some hangulPairs
  | "lvt" => some (.diff hangulSyllables hangulPairs)
  | "ri" | "regionalindicator" => some regionalIndicator
  | "zwj" => some joiner
  | _ => none

/-- The signs that stand before numbers. -/
def numberSigns : CharSet := .ofText "600-605 6DD 890-891 8E2 110BD 110CD"

/-- The mark that stands before an abbreviation in Syriac. -/
def abbreviationMark : CharSet := .ofText "70F"

/-- The letters of Hebrew. -/
def hebrewLetter : CharSet := .inter (scriptSet "hebrew") (categorySet "lo")

/-- The characters of Katakana, with those that are also used elsewhere. -/
def katakana : CharSet :=
  .union (scriptSet "katakana") (.ofText "3031-3035 309B-309C 30A0 30FC FF70")

/-- The letters of the scripts that are written without blanks between words. -/
def unspacedLetters : CharSet :=
  .ofText "E01-E3A E40-E4E E81-EBD EC0-ECE EDC-EDF 1000-103F 1050-108F 109A-109F 1780-17D3 17D7
    17DC-17DD 1950-19CF 19DA-19DF 1A20-1A7F 1AA0-1AAD A9E0-A9EF A9FA-A9FE AA60-AADF 11700-1172B
    1173A-1173B 1173F-11746"

/-- The characters that extend a word. -/
def wordExtend : CharSet :=
  .diff (CharSet.unions [graphemeExtend, spacingMark, emojiModifier]) joiner

/-- The set of a value of the property that divides a text into words. -/
def wordBreak? (name : String) : Option CharSet :=
  match name with
  | "cr" => some (.ofText "D")
  | "lf" => some (.ofText "A")
  | "nl" | "newline" => some (.ofText "B-C 85 2028-2029")
  | "zwj" => some joiner
  | "ri" | "regionalindicator" => some regionalIndicator
  | "dq" | "doublequote" => some (.ofText "22")
  | "sq" | "singlequote" => some (.ofText "27")
  | "mb" | "midnumlet" => some (.ofText "2E 2018-2019 2024 FE52 FF07 FF0E")
  | "ml" | "midletter" => some (.ofText "3A B7 387 55F 5F4 2027 FE13 FE55 FF1A")
  | "mn" | "midnum" =>
    some (.ofText "2C 3B 37E 589 60C-60D 66C 7F8 2044 FE50 FE54 FF0C FF1B")
  | "ex" | "extendnumlet" => some (.ofText "5F 202F 203F-2040 2054 FE33-FE34 FE4D-FE4F FF3F")
  | "wsegspace" => some (.ofText "20 1680 2000-2006 2008-200A 205F 3000")
  | "extend" => some wordExtend
  | "fo" | "format" =>
    some (.diff (categorySet "cf")
      (CharSet.unions [.ofText "200B", joiners, graphemeExtend, numberSigns, abbreviationMark]))
  | "nu" | "numeric" => some (CharSet.unions [categorySet "nd", .ofText "66B", numberSigns])
  | "ka" | "katakana" => some katakana
  | "hl" | "hebrewletter" => some hebrewLetter
  | "le" | "aletter" =>
    some (.diff
      (CharSet.unions [propertySet "alphabetic", abbreviationMark,
        .ofText "2C2-2C5 2D2-2D7 2DE-2DF 2E5-2EB 2ED 2EF-2FF 55A-55C 55E 58A 5F3 A708-A716
          A720-A721 A789-A78A AB5B"])
      (CharSet.unions [propertySet "ideographic", katakana, hebrewLetter, scriptSet "hiragana",
        unspacedLetters, wordExtend]))
  | _ => none

/-- The small letters, except those of Georgian, which has only few capital ones. -/
def sentenceLower : CharSet :=
  .diff (propertySet "lowercase") (.union graphemeExtend (.ofText "10D0-10FA 10FD-10FF"))

/-- The capital letters, except those of Georgian. -/
def sentenceUpper : CharSet :=
  .diff (.union (propertySet "uppercase") (categorySet "lt")) (.ofText "1C90-1CBF")

/-- The characters that extend a sentence. -/
def sentenceExtend : CharSet :=
  CharSet.unions [graphemeExtend, spacingMark, joiner]

/-- The full stops that do not always end a sentence. -/
def fullStops : CharSet := .ofText "2E 2024 FE52 FF0E"

/-- The set of a value of the property that divides a text into sentences. -/
def sentenceBreak? (name : String) : Option CharSet :=
  match name with
  | "cr" => some (.ofText "D")
  | "lf" => some (.ofText "A")
  | "se" | "sep" => some (.ofText "85 2028-2029")
  | "sp" => some (.ofText "9 B-C 20 A0 1680 2000-200A 202F 205F 3000")
  | "at" | "aterm" => some fullStops
  | "st" | "sterm" => some (.diff (propertySet "sentenceterminal") fullStops)
  | "sc" | "scontinue" =>
    some (.ofText "2C-2D 3A-3B 37E 55D 60C-60D 7F8 1802 1808 2013-2014 3001 FE10-FE11 FE13-FE14
      FE31-FE32 FE50-FE51 FE54-FE55 FE58 FE63 FF0C-FF0D FF1A-FF1B FF64")
  | "cl" | "close" =>
    some (.ofText "22 27-29 5B 5D 7B 7D AB BB F3A-F3D 169B-169C 2018-201F 2039-203A 2045-2046
      207D-207E 208D-208E 2308-230B 2329-232A 275B-2760 2768-2775 27C5-27C6 27E6-27EF 2983-2998
      29D8-29DB 29FC-29FD 2E00-2E0D 2E1C-2E1D 2E20-2E29 2E42 2E55-2E5C 3008-3011 3014-301B
      301D-301F FD3E-FD3F FE17-FE18 FE35-FE44 FE47-FE48 FE59-FE5E FF08-FF09 FF3B FF3D FF5B FF5D
      FF5F-FF60 FF62-FF63 1F676-1F678")
  | "ex" | "extend" => some sentenceExtend
  | "fo" | "format" =>
    some (.diff (categorySet "cf") (CharSet.unions [joiners, graphemeExtend, numberSigns]))
  | "nu" | "numeric" =>
    some (CharSet.unions [categorySet "nd", .ofText "66B-66C", numberSigns])
  | "lo" | "lower" => some sentenceLower
  | "up" | "upper" => some sentenceUpper
  | "le" | "oletter" =>
    some (.diff (CharSet.union (propertySet "alphabetic") (.ofText "5F3"))
      (CharSet.unions [sentenceLower, sentenceUpper, sentenceExtend]))
  | _ => none

end DexTriage.Pattern
