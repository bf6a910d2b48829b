import DexTriage.Digest.Md5
import DexTriage.Digest.Sha1
import DexTriage.Digest.Sha2
import DexTriage.Text.Hex

/-!
# Digests of a file

The four digests by which a file is looked up elsewhere, in lower-case hexadecimal.
-/

namespace DexTriage

/-- Digests of a whole file. -/
structure Digests where
  md5 : String
  sha1 : String
  sha256 : String
  sha512 : String
  deriving DecidableEq, Repr

/-- The digests of a file. -/
def Digests.ofBytes (data : Bytes) : Digests where
  md5 := Hex.ofBytes (Digest.Md5.digest data)
  sha1 := Hex.ofBytes (Digest.Sha1.digest data)
  sha256 := Hex.ofBytes (Digest.Sha256.digest data)
  sha512 := Hex.ofBytes (Digest.Sha512.digest data)

end DexTriage
