import DexTriage.Bytes

/-!
# Hexadecimal text

Lower-case hexadecimal: two digits for each byte of a digest, and numbers with or without a least
number of digits.
-/

namespace DexTriage.Hex

/-- The two digits of a byte. -/
def ofByte (byte : UInt8) : List Char :=
  [Nat.digitChar (byte.toNat / 16), Nat.digitChar (byte.toNat % 16)]

/-- Two digits for each byte, in order. -/
def ofBytes (bytes : List UInt8) : String :=
  String.ofList (bytes.flatMap ofByte)

/-- A number in as few digits as it takes. -/
def ofNat (n : Nat) : String :=
  String.ofList (Nat.toDigits 16 n)

/-- A word in eight digits. -/
def ofWord (word : UInt32) : String :=
  ofBytes (toBigEndian 4 word.toNat)

/-- Bytes as a bracketed list, two digits each. -/
def listing (bytes : List UInt8) : String :=
  "[" ++ ", ".intercalate (bytes.map fun byte => String.ofList (ofByte byte)) ++ "]"

end DexTriage.Hex
