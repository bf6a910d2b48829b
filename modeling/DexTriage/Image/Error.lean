import DexTriage.Text.Hex

/-!
# What can be wrong with an image

`ImageError` lists the causes for which a DEX image, or one string of it, is refused, and
`ImageError.message` words each of them. Offsets and sizes are unbounded numbers, so that a sum of
two of them is what it says.
-/

namespace DexTriage

/-- Why bytes are no modified UTF-8 text. -/
inductive EncodingFault where
  /-- The bytes end inside the text. -/
  | truncated
  /-- A zero byte stands where a code unit has to start. -/
  | nulByte
  /-- A byte that starts no code unit stands where one has to start. -/
  | leadByte
  /-- A code unit of several bytes goes on with a byte that is no continuation byte. -/
  | continuationByte
  /-- A high surrogate is not followed by a low one. -/
  | unpairedHigh
  /-- A low surrogate does not follow a high one. -/
  | unpairedLow
  deriving DecidableEq, Repr

/-- The wording of a fault. -/
def EncodingFault.message : EncodingFault → String
  | truncated => "string data truncated"
  | nulByte => "unexpected NUL byte"
  | leadByte => "invalid lead byte"
  | continuationByte => "invalid continuation byte"
  | unpairedHigh => "unpaired high surrogate"
  | unpairedLow => "unpaired low surrogate"

/-- Why an image, or one string of it, is refused. -/
inductive ImageError where
  /-- The image does not start with the magic of a known version. -/
  | invalidMagic (magic : List UInt8)
  /-- Fewer bytes than a header takes. -/
  | headerTruncated (got expected : Nat)
  /-- The `width` bytes at `offset` do not all lie within a buffer of `size` bytes. -/
  | offsetOutOfRange (offset width size : Nat)
  /-- The variable-length number at `offset` goes on after its fifth byte. -/
  | malformedVarint (offset : Nat)
  /-- The text is no modified UTF-8; the position counts from its first byte. -/
  | invalidEncoding (position : Nat) (fault : EncodingFault)
  /-- The text declares more code units than the limit allows. -/
  | stringTooLong (declared limit : Nat)
  deriving DecidableEq, Repr

/-- The wording of an error. -/
def ImageError.message : ImageError → String
  | invalidMagic magic => "invalid dex magic: " ++ Hex.listing magic
  | headerTruncated got expected =>
    s!"dex header truncated: got {got} bytes, expected at least {expected}"
  | offsetOutOfRange offset width size =>
    s!"offset out of range: {width} bytes at 0x" ++ Hex.ofNat offset ++
      ", buffer size 0x" ++ Hex.ofNat size
  | malformedVarint offset => "malformed uleb128 at 0x" ++ Hex.ofNat offset
  | invalidEncoding position fault =>
    s!"invalid mutf-8 at byte {position}: " ++ fault.message
  | stringTooLong declared limit =>
    s!"string declares {declared} code units, limit is {limit}"

end DexTriage
