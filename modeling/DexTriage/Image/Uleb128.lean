import DexTriage.Image.Read

/-!
# Unsigned LEB128

A 32-bit number as one to five bytes of seven bits each, lowest first, where every byte but the
last has its high bit set. Reading takes any such spelling, longer ones than needed included;
`encode` writes the shortest. Numbers in a row lie back to back (`readRow`).
-/

namespace DexTriage.Uleb128

/-- The most bytes that a number takes. -/
def maxWidth : Nat := 5

/-- Reads on after `width` bytes that gave `value`, with `room` more bytes allowed. -/
def readFrom (data : Bytes) (start : Nat) :
    (room width value : Nat) → Except ImageError (UInt32 × Nat)
  | 0, _, _ => .error (.malformedVarint start)
  | room + 1, width, value => do
    let byte ← data.byteAt (start + width)
    let value := value + (byte.toNat % 128) <<< (7 * width)
    if byte.toNat < 128 then
      return (UInt32.ofNat value, width + 1)
    readFrom data start room (width + 1) value

/-- The number at `offset` and the count of bytes that spell it. Bits of the fifth byte that do
not fit into 32 bits are dropped. -/
def read (data : Bytes) (offset : Nat) : Except ImageError (UInt32 × Nat) :=
  readFrom data offset maxWidth 0 0

/-- Numbers that lie back to back from an offset on, and the offset where the last one ends. -/
def readRow (data : Bytes) : (count offset : Nat) → Except ImageError (List UInt32 × Nat)
  | 0, offset => .ok ([], offset)
  | count + 1, offset => do
    let (value, width) ← read data offset
    let (values, stop) ← readRow data count (offset + width)
    return (value :: values, stop)

/-- The shortest spelling of a number. -/
def encodeNat (n : Nat) : List UInt8 :=
  if n < 128 then [UInt8.ofNat n] else UInt8.ofNat (n % 128 + 128) :: encodeNat (n / 128)
termination_by n
decreasing_by omega

/-- The shortest spelling of a 32-bit number. -/
def encode (value : UInt32) : List UInt8 :=
  encodeNat value.toNat

end DexTriage.Uleb128
