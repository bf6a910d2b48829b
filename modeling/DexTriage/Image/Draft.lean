import DexTriage.Image.Blueprint

/-!
# Drawing an image in place

`Blueprint.draw?` makes the image of a blueprint in a buffer: room for the header and the ids, the
items behind it one after the other, zeros up to a multiple of four bytes, and then the ids, the
header and the seal, each written into its place. If a write left the buffer, there would be no
image. `seal?` seals a buffer that is already there by writes of the same kind.
-/

namespace DexTriage

namespace Bytes

/-- Replaces the bytes from `start` up to `stop`; `none` when they are not all there, or when the
patch has another length. -/
def replace? (data : Bytes) (start stop : Nat) (patch : List UInt8) : Option Bytes :=
  if start ≤ stop ∧ stop ≤ data.size ∧ patch.length = stop - start then
    some (data.overwrite start patch)
  else
    none

/-- Replaces the words at offsets, one after the other. -/
def setWords? (data : Bytes) (words : List (Nat × UInt32)) : Option Bytes :=
  words.foldlM (fun data (offset, word) => data.setWord? offset word) data

/-- Appends zeros up to a multiple of four bytes. -/
def fillUp (data : Bytes) : Bytes :=
  if data.size % 4 = 0 then data else fillUp (data.push 0)
termination_by (4 - data.size % 4) % 4
decreasing_by
  rw [Array.size_push]
  omega

end Bytes

/-- Stores the size of an image, its signature and its checksum in their places, each of the image
with those before it stored. -/
def seal? (image : Bytes) : Option Bytes := do
  let image ← image.setWord? 32 (UInt32.ofNat image.size)
  let image ← image.replace? 12 32 (signatureOf image)
  image.setWord? 8 (checksumOf image)

/-- An image as far as it has got, and the ids of the items in it. -/
structure Draft where
  bytes : Bytes
  ids : List UInt32

/-- Appends an item, and its id to the others. -/
def Draft.add (draft : Draft) (item : StringItem) : Draft where
  bytes := draft.bytes ++ item.bytes.toArray
  ids := draft.ids ++ [item.id draft.bytes.size]

namespace Blueprint

/-- The items, with room for the header and the ids before them. -/
def draft (blueprint : Blueprint) : Draft :=
  blueprint.items.foldl Draft.add ⟨Array.replicate blueprint.dataStart 0, []⟩

/-- The ids of the items, each with its offset in the image. -/
def idWords (blueprint : Blueprint) (ids : List UInt32) : List (Nat × UInt32) :=
  ids.zipIdx.map fun (id, index) => (blueprint.headerSize + 4 * index, id)

/-- The words of the header that are stored in an image of `size` bytes before it is signed, each
with its offset. -/
def headerWords (blueprint : Blueprint) (size : Nat) : List (Nat × UInt32) :=
  let count := blueprint.items.length
  let dataSize := UInt32.ofNat (size - blueprint.dataStart)
  let container := if blueprint.container then [(112, UInt32.ofNat size), (116, 0)] else []
  [(32, blueprint.declaredSize.getD (UInt32.ofNat size)),
    (36, UInt32.ofNat blueprint.headerSize),
    (40, littleEndianTag),
    (56, UInt32.ofNat count),
    (60, if count = 0 then 0 else UInt32.ofNat blueprint.headerSize),
    (104, dataSize),
    (108, if dataSize = 0 then 0 else UInt32.ofNat blueprint.dataStart)] ++ container

/-- The image that a blueprint describes, made in place. -/
def draw? (blueprint : Blueprint) : Option Bytes := do
  let draft := blueprint.draft
  let image := draft.bytes.fillUp
  let image ← image.setWords? (blueprint.idWords draft.ids)
  let image ← image.replace? 0 8 blueprint.version.magic
  let image ← image.setWords? (blueprint.headerWords image.size)
  let image ← image.replace? 12 32 (signatureOf image)
  image.setWord? 8 (checksumOf image)

end Blueprint

end DexTriage
