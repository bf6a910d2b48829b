import DexTriage.Image.Error

/-!
# Reading at offsets and in a row

Little-endian numbers at an offset of a buffer. A read that does not fit is refused with the
offset, the width and the size of the buffer; no read depends on bytes outside its width.

A `FieldReader` reads fields that lie one after the other, each where the one before it ends. From
the tail at an offset it reads a number as well (`Bytes.numberInTail`).
-/

namespace DexTriage

namespace Bytes

/-- The number spelled by the `width` bytes at `offset`. -/
def numberAt (data : Bytes) (offset width : Nat) : Except ImageError Nat :=
  if offset + width ≤ data.size then
    .ok (littleEndian (data.window offset width))
  else
    .error (.offsetOutOfRange offset width data.size)

/-- The byte at `offset`. -/
def byteAt (data : Bytes) (offset : Nat) : Except ImageError UInt8 :=
  (data.numberAt offset 1).map UInt8.ofNat

/-- The 16-bit number at `offset`. -/
def halfAt (data : Bytes) (offset : Nat) : Except ImageError UInt16 :=
  (data.numberAt offset 2).map UInt16.ofNat

/-- The 32-bit number at `offset`. -/
def wordAt (data : Bytes) (offset : Nat) : Except ImageError UInt32 :=
  (data.numberAt offset 4).map UInt32.ofNat

/-- Everything from `offset` on. An offset just past the last byte leaves nothing, one further on
is refused. -/
def tailAt (data : Bytes) (offset : Nat) : Except ImageError Bytes :=
  if offset ≤ data.size then
    .ok (data.extract offset data.size)
  else
    .error (.offsetOutOfRange offset 0 data.size)

end Bytes

/-- A reader of fields in a row: what it reads and the bytes behind that, or `none` when the bytes
end too early. -/
abbrev FieldReader := StateT (List UInt8) Option

namespace FieldReader

/-- The next `count` bytes. -/
def bytes (count : Nat) : FieldReader (List UInt8) := fun rest =>
  if count ≤ rest.length then some (rest.take count, rest.drop count) else none

/-- The next 32-bit word. -/
def word : FieldReader UInt32 := do
  return UInt32.ofNat (littleEndian (← bytes 4))

end FieldReader

/-- The number that the first bytes of the tail at `offset` spell. That the bytes are not all there
shows in the tail, so that no end of a stretch is computed. -/
def Bytes.numberInTail (data : Bytes) (offset width : Nat) : Except ImageError Nat :=
  match data.tailAt offset with
  | .error _ => .error (.offsetOutOfRange offset width data.size)
  | .ok rest =>
    match (FieldReader.bytes width).run rest.toList with
    | none => .error (.offsetOutOfRange offset width data.size)
    | some (bytes, _) => .ok (littleEndian bytes)

end DexTriage
