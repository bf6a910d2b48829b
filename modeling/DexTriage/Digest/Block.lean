import DexTriage.Bytes

/-!
# Messages in blocks

The digests of this library all work on a message that is filled up to whole blocks: the message,
a byte `0x80`, zeros, and the length of the message in bits at the end of the last block.
-/

namespace DexTriage.Digest

/-- Fills `message` up to whole blocks of `blockWidth` bytes, the last of which ends with
`length`. -/
def fill (message : Bytes) (blockWidth : Nat) (length : List UInt8) : Bytes :=
  let zeros := (blockWidth - (message.size + 1 + length.length) % blockWidth) % blockWidth
  message ++ #[0x80] ++ Array.replicate zeros 0 ++ length.toArray

/-- The sixteen words of `width` bytes that make up the block at `start`, each spelled with the
least significant byte first. -/
def littleWords (data : Bytes) (start width : Nat) : Array Nat :=
  (Array.range 16).map fun i => littleEndian (data.window (start + width * i) width)

/-- The sixteen words of `width` bytes that make up the block at `start`, each spelled with the
most significant byte first. -/
def bigWords (data : Bytes) (start width : Nat) : Array Nat :=
  (Array.range 16).map fun i => littleEndian (data.window (start + width * i) width).reverse

/-- The offsets at which blocks of `blockWidth` bytes start. -/
def blockStarts (data : Bytes) (blockWidth : Nat) : List Nat :=
  (List.range (data.size / blockWidth)).map (blockWidth * ·)

/-- Turns a word of 32 bits to the left. -/
def rotateLeft (word : UInt32) (count : UInt32) : UInt32 :=
  word <<< count ||| word >>> (32 - count)

end DexTriage.Digest
