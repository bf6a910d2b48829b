import DexTriage.Image.Error
import DexTriage.Text.Utf16

/-!
# Modified UTF-8

The encoding of the texts of an image. It spells UTF-16 code units, not characters: a character
outside the basic multilingual plane is two spelled surrogates, and the unit zero takes two bytes,
so that no spelled text holds a zero byte.

`decode` is given the number of code units and reads exactly that many; bytes after them are not
looked at. It takes longer spellings of a unit than needed, while `encode` writes the shortest
that is allowed.
-/

namespace DexTriage.Mutf8

/-- A byte that goes on with a code unit. -/
def isContinuation (byte : UInt8) : Bool :=
  byte.toNat / 64 == 2

/-- The six bits of the continuation byte that starts `bytes`, which stand at `position`. -/
def continuation (position : Nat) (bytes : List UInt8) : Except ImageError Nat :=
  match bytes with
  | [] => .error (.invalidEncoding position .truncated)
  | byte :: _ =>
    if isContinuation byte then .ok (byte.toNat % 64)
    else .error (.invalidEncoding position .continuationByte)

/-- The code unit that starts `bytes`, which stand at `position`, and the count of its bytes. -/
def unitAt (position : Nat) (bytes : List UInt8) : Except ImageError (Nat × Nat) :=
  match bytes with
  | [] => .error (.invalidEncoding position .truncated)
  | lead :: rest =>
    if lead.toNat = 0 then
      .error (.invalidEncoding position .nulByte)
    else if lead.toNat < 0x80 then
      .ok (lead.toNat, 1)
    else if lead.toNat < 0xC0 then
      .error (.invalidEncoding position .leadByte)
    else if lead.toNat < 0xE0 then do
      let low ← continuation (position + 1) rest
      return (lead.toNat % 32 * 64 + low, 2)
    else if lead.toNat < 0xF0 then do
      let middle ← continuation (position + 1) rest
      let low ← continuation (position + 2) (rest.drop 1)
      return (lead.toNat % 16 * 4096 + middle * 64 + low, 3)
    else
      .error (.invalidEncoding position .leadByte)

/-- Reads `count` more code units after the text `done`, from `bytes`, which stand at
`position`. -/
def decodeOnto (done : String) (position : Nat) (bytes : List UInt8) :
    (count : Nat) → Except ImageError String
  | 0 => .ok done
  | 1 =>
    match unitAt position bytes with
    | .error e => .error e
    | .ok (unit, _) =>
      if isHighSurrogate unit then
        .error (.invalidEncoding position .unpairedHigh)
      else if isLowSurrogate unit then
        .error (.invalidEncoding position .unpairedLow)
      else
        .ok (done.push (Char.ofNat unit))
  | count + 2 =>
    match unitAt position bytes with
    | .error e => .error e
    | .ok (unit, width) =>
      if isHighSurrogate unit then
        match unitAt (position + width) (bytes.drop width) with
        | .error e => .error e
        | .ok (low, lowWidth) =>
          if isLowSurrogate low then
            decodeOnto (done.push (ofSurrogates unit low)) (position + width + lowWidth)
              (bytes.drop (width + lowWidth)) count
          else
            .error (.invalidEncoding (position + width) .unpairedHigh)
      else if isLowSurrogate unit then
        .error (.invalidEncoding position .unpairedLow)
      else
        decodeOnto (done.push (Char.ofNat unit)) (position + width) (bytes.drop width) (count + 1)

/-- The text of `count` code units that `bytes` spell. -/
def decode (bytes : List UInt8) (count : Nat) : Except ImageError String :=
  decodeOnto "" 0 bytes count

/-- The most code units for which there can be room in memory. -/
def capacity : Nat := (1 <<< 63) - 1

/-- The text of `count` code units that `bytes` spell; `none` when the room for as many code units,
which is made before any byte is read, cannot be made. -/
def decode? (bytes : List UInt8) (count : Nat) : Option (Except ImageError String) :=
  if count ≤ capacity then some (decode bytes count) else none

/-- The shortest allowed spelling of a code unit; zero takes two bytes. -/
def encodeUnit (unit : Nat) : List UInt8 :=
  if 0 < unit ∧ unit < 0x80 then
    [UInt8.ofNat unit]
  else if unit < 0x800 then
    [UInt8.ofNat (0xC0 + unit / 64), UInt8.ofNat (0x80 + unit % 64)]
  else
    [UInt8.ofNat (0xE0 + unit / 4096), UInt8.ofNat (0x80 + unit / 64 % 64),
      UInt8.ofNat (0x80 + unit % 64)]

/-- The bytes that spell a text. -/
def encode (text : String) : List UInt8 :=
  text.toList.flatMap fun c => (units16 c).flatMap encodeUnit

end DexTriage.Mutf8
