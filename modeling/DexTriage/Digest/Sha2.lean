import DexTriage.Digest.Block

/-!
# SHA-256 and SHA-512

Both digests run the same round on eight words. Their constants are fractional bits of the cube
and square roots of the first primes, 64 of them for the wide words and the upper 32 of the same
bits for the narrow ones.
-/

namespace DexTriage.Digest

/-- The first 64 fractional bits of the cube roots of the first 80 primes. -/
def cubeRootBits : Array UInt64 := #[
  0x428a2f98d728ae22, 0x7137449123ef65cd, 0xb5c0fbcfec4d3b2f, 0xe9b5dba58189dbbc,
  0x3956c25bf348b538, 0x59f111f1b605d019, 0x923f82a4af194f9b, 0xab1c5ed5da6d8118,
  0xd807aa98a3030242, 0x12835b0145706fbe, 0x243185be4ee4b28c, 0x550c7dc3d5ffb4e2,
  0x72be5d74f27b896f, 0x80deb1fe3b1696b1, 0x9bdc06a725c71235, 0xc19bf174cf692694,
  0xe49b69c19ef14ad2, 0xefbe4786384f25e3, 0x0fc19dc68b8cd5b5, 0x240ca1cc77ac9c65,
  0x2de92c6f592b0275, 0x4a7484aa6ea6e483, 0x5cb0a9dcbd41fbd4, 0x76f988da831153b5,
  0x983e5152ee66dfab, 0xa831c66d2db43210, 0xb00327c898fb213f, 0xbf597fc7beef0ee4,
  0xc6e00bf33da88fc2, 0xd5a79147930aa725, 0x06ca6351e003826f, 0x142929670a0e6e70,
  0x27b70a8546d22ffc, 0x2e1b21385c26c926, 0x4d2c6dfc5ac42aed, 0x53380d139d95b3df,
  0x650a73548baf63de, 0x766a0abb3c77b2a8, 0x81c2c92e47edaee6, 0x92722c851482353b,
  0xa2bfe8a14cf10364, 0xa81a664bbc423001, 0xc24b8b70d0f89791, 0xc76c51a30654be30,
  0xd192e819d6ef5218, 0xd69906245565a910, 0xf40e35855771202a, 0x106aa07032bbd1b8,
  0x19a4c116b8d2d0c8, 0x1e376c085141ab53, 0x2748774cdf8eeb99, 0x34b0bcb5e19b48a8,
  0x391c0cb3c5c95a63, 0x4ed8aa4ae3418acb, 0x5b9cca4f7763e373, 0x682e6ff3d6b2b8a3,
  0x748f82ee5defb2fc, 0x78a5636f43172f60, 0x84c87814a1f0ab72, 0x8cc702081a6439ec,
  0x90befffa23631e28, 0xa4506cebde82bde9, 0xbef9a3f7b2c67915, 0xc67178f2e372532b,
  0xca273eceea26619c, 0xd186b8c721c0c207, 0xeada7dd6cde0eb1e, 0xf57d4f7fee6ed178,
  0x06f067aa72176fba, 0x0a637dc5a2c898a6, 0x113f9804bef90dae, 0x1b710b35131c471b,
  0x28db77f523047d84, 0x32caab7b40c72493, 0x3c9ebe0a15c9bebc, 0x431d67c49c100d4c,
  0x4cc5d4becb3e42b6, 0x597f299cfc657e2a, 0x5fcb6fab3ad6faec, 0x6c44198c4a475817]

/-- The first 64 fractional bits of the square roots of the first eight primes. -/
def squareRootBits : Array UInt64 := #[
  0x6a09e667f3bcc908, 0xbb67ae8584caa73b, 0x3c6ef372fe94f82b, 0xa54ff53a5f1d36f1,
  0x510e527fade682d1, 0x9b05688c2b3e6c1f, 0x1f83d9abfb41bd6b, 0x5be0cd19137e2179]

/-- The upper half of a word of 64 bits. -/
def upperHalf (word : UInt64) : UInt32 :=
  (word >>> 32).toUInt32

namespace Sha256

/-- Turns a word to the right. -/
def rotateRight (word count : UInt32) : UInt32 :=
  word >>> count ||| word <<< (32 - count)

/-- The 64 words that a block of sixteen unfolds into. -/
def schedule (block : Array Nat) : Array UInt32 :=
  (List.range 48).foldl
    (fun w i =>
      let early := w.getD (i + 1) 0
      let late := w.getD (i + 14) 0
      w.push (w.getD i 0 + w.getD (i + 9) 0
        + (rotateRight early 7 ^^^ rotateRight early 18 ^^^ early >>> 3)
        + (rotateRight late 17 ^^^ rotateRight late 19 ^^^ late >>> 10)))
    (block.map UInt32.ofNat)

/-- Step `i` of 64 on the eight words of the chaining value. -/
def step (words : Array UInt32) (s : Array UInt32) (i : Nat) : Array UInt32 :=
  let a := s.getD 0 0
  let b := s.getD 1 0
  let c := s.getD 2 0
  let e := s.getD 4 0
  let f := s.getD 5 0
  let g := s.getD 6 0
  let first := s.getD 7 0 + (rotateRight e 6 ^^^ rotateRight e 11 ^^^ rotateRight e 25)
    + ((e &&& f) ^^^ (~~~e &&& g)) + upperHalf (cubeRootBits.getD i 0) + words.getD i 0
  let second := (rotateRight a 2 ^^^ rotateRight a 13 ^^^ rotateRight a 22)
    + ((a &&& b) ^^^ (a &&& c) ^^^ (b &&& c))
  #[first + second, a, b, c, s.getD 3 0 + first, e, f, g]

/-- Takes one block into the chaining value. -/
def absorb (s : Array UInt32) (block : Array Nat) : Array UInt32 :=
  Array.zipWith (· + ·) s ((List.range 64).foldl (step (schedule block)) s)

/-- The 32 bytes of the digest. -/
def digest (message : Bytes) : List UInt8 :=
  let data := fill message 64 (toBigEndian 8 (8 * message.size))
  let s := (blockStarts data 64).foldl (fun s start => absorb s (bigWords data start 4))
    (squareRootBits.map upperHalf)
  s.toList.flatMap fun word => toBigEndian 4 word.toNat

end Sha256

namespace Sha512

/-- Turns a word to the right. -/
def rotateRight (word count : UInt64) : UInt64 :=
  word >>> count ||| word <<< (64 - count)

/-- The eighty words that a block of sixteen unfolds into. -/
def schedule (block : Array Nat) : Array UInt64 :=
  (List.range 64).foldl
    (fun w i =>
      let early := w.getD (i + 1) 0
      let late := w.getD (i + 14) 0
      w.push (w.getD i 0 + w.getD (i + 9) 0
        + (rotateRight early 1 ^^^ rotateRight early 8 ^^^ early >>> 7)
        + (rotateRight late 19 ^^^ rotateRight late 61 ^^^ late >>> 6)))
    (block.map UInt64.ofNat)

/-- Step `i` of 80 on the eight words of the chaining value. -/
def step (words : Array UInt64) (s : Array UInt64) (i : Nat) : Array UInt64 :=
  let a := s.getD 0 0
  let b := s.getD 1 0
  let c := s.getD 2 0
  let e := s.getD 4 0
  let f := s.getD 5 0
  let g := s.getD 6 0
  let first := s.getD 7 0 + (rotateRight e 14 ^^^ rotateRight e 18 ^^^ rotateRight e 41)
    + ((e &&& f) ^^^ (~~~e &&& g)) + cubeRootBits.getD i 0 + words.getD i 0
  let second := (rotateRight a 28 ^^^ rotateRight a 34 ^^^ rotateRight a 39)
    + ((a &&& b) ^^^ (a &&& c) ^^^ (b &&& c))
  #[first + second, a, b, c, s.getD 3 0 + first, e, f, g]

/-- Takes one block into the chaining value. -/
def absorb (s : Array UInt64) (block : Array Nat) : Array UInt64 :=
  Array.zipWith (· + ·) s ((List.range 80).foldl (step (schedule block)) s)

/-- The 64 bytes of the digest. -/
def digest (message : Bytes) : List UInt8 :=
  let data := fill message 128 (toBigEndian 16 (8 * message.size))
  let s := (blockStarts data 128).foldl (fun s start => absorb s (bigWords data start 8))
    squareRootBits
  s.toList.flatMap fun word => toBigEndian 8 word.toNat

end Sha512

end DexTriage.Digest
