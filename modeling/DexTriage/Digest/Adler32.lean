import DexTriage.Bytes

/-!
# Adler-32

The checksum of an image. Two sums are kept modulo the largest prime below 2^16: of the bytes, and
of the first sum after each byte.
-/

namespace DexTriage.Digest.Adler32

/-- The largest prime below 2^16. -/
def modulus : Nat := 65521

/-- The two running sums. -/
structure Sums where
  bytes : Nat
  totals : Nat
  deriving DecidableEq, Repr

/-- The sums before the first byte. -/
def initial : Sums := ⟨1, 0⟩

/-- Takes one byte into the sums. -/
def step (s : Sums) (byte : UInt8) : Sums :=
  let bytes := (s.bytes + byte.toNat) % modulus
  ⟨bytes, (s.totals + bytes) % modulus⟩

/-- The word that holds both sums. -/
def Sums.word (s : Sums) : UInt32 :=
  UInt32.ofNat (65536 * s.totals + s.bytes)

/-- The checksum of a list of bytes. -/
def checksum (bytes : List UInt8) : UInt32 :=
  (bytes.foldl step initial).word

end DexTriage.Digest.Adler32
