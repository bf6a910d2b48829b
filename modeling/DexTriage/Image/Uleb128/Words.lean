import DexTriage.Image.Uleb128

/-!
# Unsigned LEB128 in words

Reading a number with an offset of 64 bits and a value of 32 bits. An offset that would leave its
64 bits stays at the greatest one, and bits of the value that leave the 32 bits are lost.
`readStrict?` gives up where an offset would not fit, or a word would be shifted by its width.

Writing takes seven bits off a value at a time (`push`) and puts them behind a buffer.
-/

namespace DexTriage.Uleb128

/-- The offset `count` bytes further on, at most the greatest one. -/
def advance (offset : UInt64) (count : Nat) : UInt64 :=
  if offset.toNat + count < UInt64.size then offset + UInt64.ofNat count
  else UInt64.ofNat (UInt64.size - 1)

/-- Reads on after `width` bytes that gave `value`, with `room` more bytes allowed. -/
def readWordsFrom (data : Bytes) (start : UInt64) :
    (room width : Nat) → (value : UInt32) → Except ImageError (UInt32 × Nat)
  | 0, _, _ => .error (.malformedVarint start.toNat)
  | room + 1, width, value => do
    let byte ← data.byteAt (advance start width).toNat
    let value := value ||| (byte &&& 0x7F).toUInt32 <<< UInt32.ofNat (7 * width)
    if byte &&& 0x80 = 0 then
      return (value, width + 1)
    readWordsFrom data start room (width + 1) value

/-- The number at `offset` and the count of bytes that spell it. -/
def readWords (data : Bytes) (offset : UInt64) : Except ImageError (UInt32 × Nat) :=
  readWordsFrom data offset maxWidth 0 0

/-- Reads on as `readWordsFrom` does; `none` where an offset would leave its 64 bits, or bits would
be shifted by as many places as a word has. -/
def readStrictFrom? (data : Bytes) (start : UInt64) :
    (room width : Nat) → (value : UInt32) → Option (Except ImageError (UInt32 × Nat))
  | 0, _, _ => some (.error (.malformedVarint start.toNat))
  | room + 1, width, value =>
    if start.toNat + width < UInt64.size ∧ 7 * width < 32 then
      match data.byteAt (start + UInt64.ofNat width).toNat with
      | .error e => some (.error e)
      | .ok byte =>
        let value := value ||| (byte &&& 0x7F).toUInt32 <<< UInt32.ofNat (7 * width)
        if byte &&& 0x80 = 0 then
          some (.ok (value, width + 1))
        else
          readStrictFrom? data start room (width + 1) value
    else
      none

/-- The number at `offset` and the count of bytes that spell it, if no offset and no shift on the
way is too wide. -/
def readStrict? (data : Bytes) (offset : UInt64) : Option (Except ImageError (UInt32 × Nat)) :=
  readStrictFrom? data offset maxWidth 0 0

/-- Seven bits less are left of a value that has more. -/
theorem toNat_shiftRight_lt {value : UInt32} (more : value >>> 7 ≠ 0) :
    (value >>> 7).toNat < value.toNat := by
  have quotient : (value >>> 7).toNat = value.toNat / 2 ^ 7 := by
    rw [UInt32.toNat_shiftRight, Nat.shiftRight_eq_div_pow]
    rfl
  have some_bit : (value >>> 7).toNat ≠ 0 := fun zero => more (UInt32.toNat_inj.1 zero)
  rw [quotient] at some_bit ⊢
  omega

/-- Puts the shortest spelling of a number behind a buffer. -/
def push (out : Bytes) (value : UInt32) : Bytes :=
  let byte := (value &&& 0x7F).toUInt8
  if more : value >>> 7 = 0 then
    out.push byte
  else
    have := toNat_shiftRight_lt more
    push (out.push (byte ||| 0x80)) (value >>> 7)
termination_by value.toNat

end DexTriage.Uleb128
