import DexTriage.Image.Seal
import DexTriage.Image.StringPool

/-!
# Images

What reading a DEX image gives: its header, where the header disagrees with the image, and the
texts of its string pool. Only the header can make an image unreadable.
-/

namespace DexTriage

/-- The most code units of a text that is read unless told otherwise. -/
def defaultStringLimit : Nat := 1 <<< 20

/-- An image that has been read. -/
structure Image where
  header : Header
  inconsistencies : List Inconsistency
  pool : StringPool
  deriving DecidableEq, Repr

/-- Reads an image, omitting texts of more than `limit` code units. -/
def Image.parse (image : Bytes) (limit : Nat) : Except ImageError Image := do
  let header ← Header.parse image
  return ⟨header, header.inconsistencies image, StringPool.read image header limit⟩

end DexTriage
