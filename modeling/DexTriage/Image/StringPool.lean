import DexTriage.Image.Header
import DexTriage.Image.Mutf8
import DexTriage.Image.Uleb128

/-!
# The string pool of an image

Every string id is the offset of a text: its length in code units as a variable-length number, and
then its bytes. A text that cannot be read is omitted with the reason, and keeps no other one from
being read.
-/

namespace DexTriage

/-- A string id whose text could not be read. -/
structure Omission where
  index : Nat
  error : ImageError
  deriving DecidableEq, Repr

/-- The texts of an image, in the order of their ids. -/
structure StringPool where
  strings : List String
  omitted : List Omission
  deriving DecidableEq, Repr

/-- The most bytes that spell one code unit. -/
def maxUnitWidth : Nat := 3

/-- The text whose length field starts at `offset`, unless it declares more than `limit` code
units. -/
def textAt (image : Bytes) (limit offset : Nat) : Except ImageError String := do
  let (units, width) ← Uleb128.read image offset
  let units := units.toNat
  let start := offset + width
  if limit < units then
    throw (.stringTooLong units limit)
  if image.size < start + units then
    throw (.offsetOutOfRange start units image.size)
  Mutf8.decode (image.window start (maxUnitWidth * units)) units

namespace StringPool

/-- The text of string id `index`. -/
def entry (image : Bytes) (header : Header) (limit index : Nat) : Except ImageError String := do
  let offset ← image.wordAt (header.stringIds.offset.toNat + 4 * index)
  textAt image limit offset.toNat

/-- The texts of a list of entries, and the omissions among them. -/
def ofEntries (entries : List (Except ImageError String)) : StringPool where
  strings := entries.filterMap Except.toOption
  omitted := entries.zipIdx.filterMap fun (entry, index) =>
    match entry with
    | .ok _ => none
    | .error error => some ⟨index, error⟩

/-- The pool of an image. -/
def read (image : Bytes) (header : Header) (limit : Nat) : StringPool :=
  ofEntries ((List.range header.stringIds.count.toNat).map (entry image header limit))

/-- The text at a position among the texts that could be read. -/
def get? (pool : StringPool) (position : Nat) : Option String :=
  pool.strings[position]?

end StringPool

end DexTriage
