/-!
# Byte buffers

A file is an array of bytes, addressed by offsets counted from zero. This module holds what the
rest of the library needs of one: numbers in little-endian order, and replacing a stretch in
place. `size_overwrite` says that replacing never changes the length.
-/

namespace DexTriage

/-- A file, or a stretch of one. -/
abbrev Bytes := Array UInt8

/-- The number that bytes spell with the least significant byte first. -/
def littleEndian (bytes : List UInt8) : Nat :=
  bytes.foldr (fun byte high => byte.toNat + 256 * high) 0

/-- The `width` bytes that spell a number with the least significant byte first; what does not
fit into them is dropped. -/
def toLittleEndian : (width : Nat) → Nat → List UInt8
  | 0, _ => []
  | width + 1, n => UInt8.ofNat n :: toLittleEndian width (n / 256)

/-- The `width` bytes that spell a number with the most significant byte first. -/
def toBigEndian (width n : Nat) : List UInt8 :=
  (toLittleEndian width n).reverse

@[simp] theorem length_toLittleEndian (width n : Nat) :
    (toLittleEndian width n).length = width := by
  induction width generalizing n with
  | zero => rfl
  | succ width ih => simp [toLittleEndian, ih]

namespace Bytes

/-- The stretch of `count` bytes from `offset` on, shorter where the buffer ends before it does. -/
def window (data : Bytes) (offset count : Nat) : List UInt8 :=
  (data.extract offset (offset + count)).toList

/-- The bytes of a 32-bit word in the order in which a file holds them. -/
def ofWord (word : UInt32) : List UInt8 :=
  toLittleEndian 4 word.toNat

/-- Replaces the bytes from `offset` on by `patch`; what would lie past the end is dropped. -/
def overwrite (data : Bytes) (offset : Nat) : (patch : List UInt8) → Bytes
  | [] => data
  | byte :: patch => overwrite (data.setIfInBounds offset byte) (offset + 1) patch

/-- Replaces the word at `offset`; `none` when the four bytes are not all there. -/
def setWord? (data : Bytes) (offset : Nat) (word : UInt32) : Option Bytes :=
  if offset + 4 ≤ data.size then some (data.overwrite offset (ofWord word)) else none

@[simp] theorem size_overwrite (data : Bytes) (offset : Nat) (patch : List UInt8) :
    (data.overwrite offset patch).size = data.size := by
  induction patch generalizing data offset with
  | nil => rfl
  | cons byte patch ih => simp [overwrite, ih]

end Bytes

end DexTriage
