/-!
# UTF-16 code units

The code units of a character: one for the basic multilingual plane, else a high and a low
surrogate. `units16` counts them for a whole text.
-/

namespace DexTriage

/-- A code unit that starts a surrogate pair. -/
def isHighSurrogate (unit : Nat) : Bool :=
  0xD800 ≤ unit && unit ≤ 0xDBFF

/-- A code unit that ends a surrogate pair. -/
def isLowSurrogate (unit : Nat) : Bool :=
  0xDC00 ≤ unit && unit ≤ 0xDFFF

/-- The character that a surrogate pair stands for. -/
def ofSurrogates (high low : Nat) : Char :=
  Char.ofNat (0x10000 + (high - 0xD800) * 0x400 + (low - 0xDC00))

/-- The code units of a character. -/
def units16 (c : Char) : List Nat :=
  if c.toNat < 0x10000 then
    [c.toNat]
  else
    [0xD800 + (c.toNat - 0x10000) / 0x400, 0xDC00 + (c.toNat - 0x10000) % 0x400]

/-- The number of code units of a text. -/
def length16 (text : String) : Nat :=
  (text.toList.flatMap units16).length

end DexTriage
