import DexTriage.Image.Mutf8

/-!
# Modified UTF-8 in words

Decoding with code units of 16 bits and numbers of characters of 32 bits, at positions of one buffer.
The room for the text is made before any byte is read, and a number is taken for a character only
after it has been found to be that of one.
-/

namespace DexTriage.Mutf8

/-- Why bytes are refused when they are decoded in words. -/
inductive WordError where
  /-- For what is wrong with the bytes. -/
  | image (error : ImageError)
  /-- For a number that is of no character, made of code units that start at a position. -/
  | badCodePoint (position : Nat)
  deriving DecidableEq, Repr

/-- The wording of an error. -/
def WordError.message : WordError → String
  | image error => error.message
  | badCodePoint position => s!"invalid mutf-8 at byte {position}: bad code point"

/-- The six bits of the continuation byte at a position. -/
def continuationWord (bytes : List UInt8) (position : Nat) : Except ImageError UInt16 :=
  match bytes[position]? with
  | none => .error (.invalidEncoding position .truncated)
  | some byte =>
    if byte &&& 0xC0 = 0x80 then .ok (byte &&& 0x3F).toUInt16
    else .error (.invalidEncoding position .continuationByte)

/-- The code unit at a position, and the position behind it. -/
def unitWord (bytes : List UInt8) (position : Nat) : Except ImageError (UInt16 × Nat) :=
  match bytes[position]? with
  | none => .error (.invalidEncoding position .truncated)
  | some lead =>
    if lead = 0x00 then
      .error (.invalidEncoding position .nulByte)
    else if lead ≤ 0x7F then
      .ok (lead.toUInt16, position + 1)
    else if 0xC0 ≤ lead ∧ lead ≤ 0xDF then do
      let low ← continuationWord bytes (position + 1)
      return ((lead.toUInt16 &&& 0x1F) <<< 6 ||| low, position + 2)
    else if 0xE0 ≤ lead ∧ lead ≤ 0xEF then do
      let middle ← continuationWord bytes (position + 1)
      let low ← continuationWord bytes (position + 2)
      return ((lead.toUInt16 &&& 0x0F) <<< 12 ||| middle <<< 6 ||| low, position + 3)
    else
      .error (.invalidEncoding position .leadByte)

/-- A text with the character of a number behind it. -/
def pushWord (done : String) (position : Nat) (number : UInt32) : Except WordError String :=
  if valid : number.toNat.isValidChar then .ok (done.push ⟨number, valid⟩)
  else .error (.badCodePoint position)

/-- The number of the character that a surrogate pair stands for. -/
def pairWord (high low : UInt16) : UInt32 :=
  (0x10000 : UInt32) + (high - 0xD800).toUInt32 <<< (10 : UInt32) + (low - 0xDC00).toUInt32

/-- Reads `count` more code units from a position on, after the text `done`. -/
def decodeWordsOnto (bytes : List UInt8) (done : String) (position : Nat) :
    (count : Nat) → Except WordError String
  | 0 => .ok done
  | count + 1 => do
    let (unit, next) ← (unitWord bytes position).mapError .image
    if 0xD800 ≤ unit ∧ unit ≤ 0xDBFF then
      match count with
      | 0 => .error (.image (.invalidEncoding position .unpairedHigh))
      | count + 1 =>
        let (low, behind) ← (unitWord bytes next).mapError .image
        if 0xDC00 ≤ low ∧ low ≤ 0xDFFF then
          let done ← pushWord done position (pairWord unit low)
          decodeWordsOnto bytes done behind count
        else
          .error (.image (.invalidEncoding next .unpairedHigh))
    else if 0xDC00 ≤ unit ∧ unit ≤ 0xDFFF then
      .error (.image (.invalidEncoding position .unpairedLow))
    else
      let done ← pushWord done position unit.toUInt32
      decodeWordsOnto bytes done next count

/-- The text of `count` code units that `bytes` spell, if the room for it can be made. -/
def decodeWords? (bytes : List UInt8) (count : Nat) : Option (Except WordError String) :=
  if count ≤ capacity then some (decodeWordsOnto bytes "" 0 count) else none

end DexTriage.Mutf8
