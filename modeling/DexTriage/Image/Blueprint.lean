import DexTriage.Image.Mutf8
import DexTriage.Image.Seal
import DexTriage.Image.Uleb128

/-!
# Blueprints of images

A blueprint says what an image is to hold; `Blueprint.image` is that image: the header, one id for
each string, the texts one after the other, zeros up to a multiple of four bytes, and the seal.
Broken texts and dangling ids can be asked for.
-/

namespace DexTriage

/-- One string id of a blueprint. -/
inductive StringItem where
  /-- A text as it should be. -/
  | text (content : String)
  /-- A declared number of code units before arbitrary bytes. -/
  | sized (units : UInt32) (payload : List UInt8)
  /-- Arbitrary bytes, length field included. -/
  | raw (payload : List UInt8)
  /-- An id that is the given offset. -/
  | dangling (offset : UInt32)
  deriving DecidableEq, Repr

namespace StringItem

/-- The bytes that an item adds to the image. -/
def bytes : StringItem → List UInt8
  | .text content =>
    Uleb128.encode (UInt32.ofNat (length16 content)) ++ Mutf8.encode content ++ [0]
  | .sized units payload => Uleb128.encode units ++ payload
  | .raw payload => payload
  | .dangling _ => []

/-- The id of an item whose bytes start at `offset`. -/
def id (item : StringItem) (offset : Nat) : UInt32 :=
  match item with
  | .dangling target => target
  | _ => UInt32.ofNat offset

/-- The ids of items whose bytes lie one after the other from `offset` on. -/
def ids : (offset : Nat) → List StringItem → List UInt32
  | _, [] => []
  | offset, item :: items => item.id offset :: ids (offset + item.bytes.length) items

end StringItem

/-- What an image is to hold. -/
structure Blueprint where
  version : Version := .v35
  items : List StringItem := []
  /-- The size that the header declares instead of the true one. -/
  declaredSize : Option UInt32 := none
  /-- Whether the header has container fields. -/
  container : Bool := false
  deriving Repr, Inhabited

/-- One step in drawing up a blueprint. -/
inductive BlueprintStep where
  | version (version : Version)
  | item (item : StringItem)
  | items (items : List StringItem)
  | containerHeader
  | declaredSize (size : UInt32)

namespace Blueprint

/-- The blueprint after one more step. A container header makes the version 41, which a later step
may change again. -/
def step (blueprint : Blueprint) : BlueprintStep → Blueprint
  | .version version => { blueprint with version }
  | .item item => { blueprint with items := blueprint.items ++ [item] }
  | .items items => { blueprint with items := blueprint.items ++ items }
  | .containerHeader => { blueprint with version := .v41, container := true }
  | .declaredSize size => { blueprint with declaredSize := some size }

/-- The blueprint that steps draw up from nothing. -/
def ofSteps (steps : List BlueprintStep) : Blueprint :=
  steps.foldl step {}

/-- The size of the header. -/
def headerSize (blueprint : Blueprint) : Nat :=
  if blueprint.container then containerHeaderWidth else headerWidth

/-- The offset of the first byte behind the ids. -/
def dataStart (blueprint : Blueprint) : Nat :=
  blueprint.headerSize + 4 * blueprint.items.length

/-- Everything behind the ids. -/
def body (blueprint : Blueprint) : List UInt8 :=
  let bytes := blueprint.items.flatMap StringItem.bytes
  bytes ++ List.replicate ((4 - (blueprint.dataStart + bytes.length) % 4) % 4) 0

/-- The size of the image. -/
def size (blueprint : Blueprint) : Nat :=
  blueprint.dataStart + blueprint.body.length

/-- The header of the image, not yet sealed. -/
def header (blueprint : Blueprint) : Header where
  version := blueprint.version
  checksum := 0
  signature := List.replicate 20 0
  fileSize := blueprint.declaredSize.getD (UInt32.ofNat blueprint.size)
  headerSize := UInt32.ofNat blueprint.headerSize
  endianTag := littleEndianTag
  linkSize := 0
  linkOffset := 0
  mapOffset := 0
  stringIds :=
    ⟨UInt32.ofNat blueprint.items.length,
      if blueprint.items.isEmpty then 0 else UInt32.ofNat blueprint.headerSize⟩
  typeIds := ⟨0, 0⟩
  protoIds := ⟨0, 0⟩
  fieldIds := ⟨0, 0⟩
  methodIds := ⟨0, 0⟩
  classDefs := ⟨0, 0⟩
  data :=
    ⟨UInt32.ofNat blueprint.body.length,
      if blueprint.body.isEmpty then 0 else UInt32.ofNat blueprint.dataStart⟩
  containerSize := UInt32.ofNat blueprint.size
  containerOffset := 0

/-- The image that a blueprint describes. -/
def image (blueprint : Blueprint) : Bytes :=
  let ids := StringItem.ids blueprint.dataStart blueprint.items
  sign (blueprint.header.encode ++ ids.flatMap Bytes.ofWord ++ blueprint.body).toArray

end Blueprint

end DexTriage
