import DexTriage.Digest.Adler32
import DexTriage.Digest.Sha1
import DexTriage.Image.Header

/-!
# The seal of an image

An image carries its own size, a SHA-1 signature of everything behind the signature field, and an
Adler-32 checksum of everything behind the checksum field. `sealed` stores the three, the inner ones
first. `Header.inconsistencies` lists where a header disagrees with the image; none of that keeps
the image from being read.
-/

namespace DexTriage

/-- The checksum that an image should carry. -/
def checksumOf (image : Bytes) : UInt32 :=
  Digest.Adler32.checksum (image.extract 12 image.size).toList

/-- The signature that an image should carry. -/
def signatureOf (image : Bytes) : List UInt8 :=
  Digest.Sha1.digest (image.extract 32 image.size)

/-- Stores the signature that an image should carry, and then the checksum. -/
def sign (image : Bytes) : Bytes :=
  let signed := image.overwrite 12 (signatureOf image)
  signed.overwrite 8 (Bytes.ofWord (checksumOf signed))

/-- Stores the size of an image, its signature and its checksum. -/
def sealed (image : Bytes) : Bytes :=
  sign (image.overwrite 32 (Bytes.ofWord (UInt32.ofNat image.size)))

/-- A value of a header that disagrees with the image. -/
inductive Inconsistency where
  | fileSizeMismatch (declared actual : Nat)
  | checksumMismatch (declared computed : UInt32)
  | signatureMismatch
  | reverseEndian
  | unknownEndian (tag : UInt32)
  deriving DecidableEq, Repr

/-- The wording of an inconsistency. -/
def Inconsistency.message : Inconsistency → String
  | fileSizeMismatch declared actual =>
    s!"declared file size {declared} but got {actual} bytes"
  | checksumMismatch declared computed =>
    "adler32 checksum 0x" ++ Hex.ofWord declared ++ " != computed 0x" ++ Hex.ofWord computed
  | signatureMismatch => "sha1 signature doesn't match file"
  | reverseEndian => "file declares big-endian byte order"
  | unknownEndian tag => "unknown endian tag 0x" ++ Hex.ofWord tag

/-- Where a header disagrees with the image it was read from. -/
def Header.inconsistencies (header : Header) (image : Bytes) : List Inconsistency :=
  let size :=
    if header.fileSize.toNat = image.size then []
    else [.fileSizeMismatch header.fileSize.toNat image.size]
  let checksum :=
    if checksumOf image = header.checksum then []
    else [.checksumMismatch header.checksum (checksumOf image)]
  let signature :=
    if signatureOf image = header.signature then [] else [.signatureMismatch]
  let endian :=
    if header.endianTag = littleEndianTag then []
    else if header.endianTag = bigEndianTag then [.reverseEndian]
    else [.unknownEndian header.endianTag]
  size ++ checksum ++ signature ++ endian

end DexTriage
