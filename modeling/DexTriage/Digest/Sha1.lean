import DexTriage.Digest.Block

/-!
# SHA-1

The 160-bit digest with which an image signs itself.
-/

namespace DexTriage.Digest.Sha1

/-- The chaining value. -/
structure State where
  a : UInt32
  b : UInt32
  c : UInt32
  d : UInt32
  e : UInt32

/-- The chaining value before the first block. -/
def initial : State := ⟨0x67452301, 0xefcdab89, 0x98badcfe, 0x10325476, 0xc3d2e1f0⟩

/-- The eighty words that a block of sixteen unfolds into. -/
def schedule (block : Array Nat) : Array UInt32 :=
  (List.range 64).foldl
    (fun w i => w.push (rotateLeft
      (w.getD (i + 13) 0 ^^^ w.getD (i + 8) 0 ^^^ w.getD (i + 2) 0 ^^^ w.getD i 0) 1))
    (block.map UInt32.ofNat)

/-- Step `i` of 80. -/
def step (words : Array UInt32) (s : State) (i : Nat) : State :=
  let (mix, constant) :=
    if i < 20 then ((s.b &&& s.c) ||| (~~~s.b &&& s.d), (0x5a827999 : UInt32))
    else if i < 40 then (s.b ^^^ s.c ^^^ s.d, 0x6ed9eba1)
    else if i < 60 then ((s.b &&& s.c) ||| (s.b &&& s.d) ||| (s.c &&& s.d), 0x8f1bbcdc)
    else (s.b ^^^ s.c ^^^ s.d, 0xca62c1d6)
  ⟨rotateLeft s.a 5 + mix + s.e + constant + words.getD i 0, s.a, rotateLeft s.b 30, s.c, s.d⟩

/-- Takes one block into the chaining value. -/
def absorb (s : State) (block : Array Nat) : State :=
  let r := (List.range 80).foldl (step (schedule block)) s
  ⟨s.a + r.a, s.b + r.b, s.c + r.c, s.d + r.d, s.e + r.e⟩

/-- The twenty bytes of the digest. -/
def digest (message : Bytes) : List UInt8 :=
  let data := fill message 64 (toBigEndian 8 (8 * message.size))
  let s := (blockStarts data 64).foldl (fun s start => absorb s (bigWords data start 4)) initial
  [s.a, s.b, s.c, s.d, s.e].flatMap fun word => toBigEndian 4 word.toNat

@[simp] theorem length_digest (message : Bytes) : (digest message).length = 20 := by
  simp [digest, toBigEndian]

end DexTriage.Digest.Sha1
