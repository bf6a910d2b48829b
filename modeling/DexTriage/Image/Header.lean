import DexTriage.Image.Read
import DexTriage.Image.Version

/-!
# The header of an image

A header is a row of little-endian words, read one after the other. Seven pairs of them place the
tables of the image, each by a count of items and the offset of the first.

`Header.parse` refuses an image whose magic, size or tables are impossible, with the first of
these faults in that order; a count of zero places no table, whatever its offset says.
`Header.encode` writes the row of words back.
-/

namespace DexTriage

/-- The size of a header without container fields. -/
def headerWidth : Nat := 0x70

/-- The size of a header with container fields. -/
def containerHeaderWidth : Nat := 0x78

/-- The endian tag of an image in little-endian order. -/
def littleEndianTag : UInt32 := 0x12345678

/-- The endian tag of an image in big-endian order, as it reads in little-endian order. -/
def bigEndianTag : UInt32 := 0x78563412

/-- The tables that a header places. -/
inductive Table where
  | stringIds
  | typeIds
  | protoIds
  | fieldIds
  | methodIds
  | classDefs
  | data
  deriving DecidableEq, Repr

namespace Table

/-- The tables in the order of the header. -/
def all : List Table := [stringIds, typeIds, protoIds, fieldIds, methodIds, classDefs, data]

/-- The name of a table. -/
def name : Table → String
  | stringIds => "string_ids"
  | typeIds => "type_ids"
  | protoIds => "proto_ids"
  | fieldIds => "field_ids"
  | methodIds => "method_ids"
  | classDefs => "class_defs"
  | data => "data"

/-- The size of one item of a table. -/
def itemWidth : Table → Nat
  | stringIds | typeIds => 4
  | protoIds => 12
  | fieldIds | methodIds => 8
  | classDefs => 32
  | data => 1

end Table

/-- Where a table lies: how many items it has and where the first one starts. -/
structure Extent where
  count : UInt32
  offset : UInt32
  deriving DecidableEq, Repr, Inhabited

/-- The header of an image. -/
structure Header where
  version : Version
  checksum : UInt32
  signature : List UInt8
  fileSize : UInt32
  headerSize : UInt32
  endianTag : UInt32
  linkSize : UInt32
  linkOffset : UInt32
  mapOffset : UInt32
  stringIds : Extent
  typeIds : Extent
  protoIds : Extent
  fieldIds : Extent
  methodIds : Extent
  classDefs : Extent
  data : Extent
  /-- The size of the container that the image is part of, zero before version 41. -/
  containerSize : UInt32 := 0
  /-- The offset of the header within its container, zero before version 41. -/
  containerOffset : UInt32 := 0
  deriving DecidableEq, Repr, Inhabited

namespace Header

/-- Where a header places a table. -/
def extent (header : Header) : Table → Extent
  | .stringIds => header.stringIds
  | .typeIds => header.typeIds
  | .protoIds => header.protoIds
  | .fieldIds => header.fieldIds
  | .methodIds => header.methodIds
  | .classDefs => header.classDefs
  | .data => header.data

/-- The size in bytes of a table. -/
def tableSize (header : Header) (table : Table) : Nat :=
  (header.extent table).count.toNat * table.itemWidth

/-- The tables that have items, in the order of the header. -/
def tables (header : Header) : List Table :=
  Table.all.filter fun table => (header.extent table).count ≠ 0

/-- Whether a table lies within the first `size` bytes. -/
def places (header : Header) (size : Nat) (table : Table) : Bool :=
  (header.extent table).offset.toNat + header.tableSize table ≤ size

/-- The next two words as the extent of a table. -/
def readExtent : FieldReader Extent := do
  return ⟨← .word, ← .word⟩

/-- The fields behind the magic of an image, without container fields. -/
def readFields (version : Version) : FieldReader Header := do
  let checksum ← .word
  let signature ← .bytes 20
  let fileSize ← .word
  let headerSize ← .word
  let endianTag ← .word
  let linkSize ← .word
  let linkOffset ← .word
  let mapOffset ← .word
  let stringIds ← readExtent
  let typeIds ← readExtent
  let protoIds ← readExtent
  let fieldIds ← readExtent
  let methodIds ← readExtent
  let classDefs ← readExtent
  let data ← readExtent
  return {
    version, checksum, signature, fileSize, headerSize, endianTag, linkSize, linkOffset, mapOffset,
    stringIds, typeIds, protoIds, fieldIds, methodIds, classDefs, data }

/-- Whether the header of an image of `size` bytes goes on with the container fields. -/
def hasContainer (header : Header) (size : Nat) : Bool :=
  header.version == .v41 && containerHeaderWidth ≤ header.headerSize.toNat
    && containerHeaderWidth ≤ size

/-- The header with the container fields behind the others. -/
def readContainer (header : Header) : FieldReader Header := do
  let containerSize ← .word
  let containerOffset ← .word
  return { header with containerSize, containerOffset }

/-- The header of an image whose magic and size are possible; its tables are not yet looked at. -/
def readChecked (image : Bytes) : Except ImageError Header :=
  let magic := image.window 0 8
  match Version.ofMagic? magic with
  | none => .error (.invalidMagic magic)
  | some version =>
    if image.size < headerWidth then
      .error (.headerTruncated image.size headerWidth)
    else
      match (readFields version).run (image.toList.drop 8) with
      | none => .error (.headerTruncated image.size headerWidth)
      | some (header, rest) =>
        if header.headerSize.toNat < headerWidth then
          .error (.headerTruncated header.headerSize.toNat headerWidth)
        else if header.hasContainer image.size then
          match (readContainer header).run rest with
          | none => .error (.headerTruncated image.size containerHeaderWidth)
          | some (header, _) => .ok header
        else
          .ok header

/-- Refuses a header that places a table outside the first `size` bytes. -/
def checkTables (header : Header) (size : Nat) : Except ImageError Header :=
  match header.tables.find? fun table => !header.places size table with
  | none => .ok header
  | some table =>
    .error (.offsetOutOfRange (header.extent table).offset.toNat (header.tableSize table) size)

/-- The header of an image, every table of which lies within the image. -/
def parse (image : Bytes) : Except ImageError Header := do
  (← readChecked image).checkTables image.size

/-- The words of a header in their order in an image; with container fields if the header is wide
enough for them. -/
def encode (header : Header) : List UInt8 :=
  let extents := Table.all.flatMap fun table =>
    Bytes.ofWord (header.extent table).count ++ Bytes.ofWord (header.extent table).offset
  let container :=
    if containerHeaderWidth ≤ header.headerSize.toNat then
      Bytes.ofWord header.containerSize ++ Bytes.ofWord header.containerOffset
    else
      []
  header.version.magic ++ Bytes.ofWord header.checksum ++ header.signature
    ++ [header.fileSize, header.headerSize, header.endianTag, header.linkSize, header.linkOffset,
      header.mapOffset].flatMap Bytes.ofWord
    ++ extents ++ container

end Header

end DexTriage
