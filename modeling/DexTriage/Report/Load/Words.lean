import DexTriage.Image.Uleb128.Words
import DexTriage.Report.Load

/-!
# Reports on files in words

Loading with sizes and limits of 64 bits. A read goes one byte beyond the limit, or as far as the
greatest limit, beyond which there is no further number.
-/

namespace DexTriage

/-- Limits in words. -/
structure WordLimits where
  fileSize : UInt64
  stringUnits : UInt32
  deriving DecidableEq, Repr

/-- Limits in words as numbers. -/
def WordLimits.toLimits (limits : WordLimits) : Limits where
  fileSize := limits.fileSize.toNat
  stringUnits := limits.stringUnits.toNat

/-- Refuses a size beyond a limit. -/
def checkSize (size limit : UInt64) : Except ReportError Unit :=
  if limit < size then .error (.fileTooLarge size.toNat limit.toNat) else .ok ()

/-- The bytes of a node, if there are not more of them than a limit. -/
def Node.readWords (path : String) (limit : UInt64) : Node → Except ReportError Bytes
  | file size content => do
    checkSize (UInt64.ofNat size) limit
    let input := content.extract 0 (Uleb128.advance limit 1).toNat
    checkSize (UInt64.ofNat input.size) limit
    return input
  | directory size _ => do
    checkSize (UInt64.ofNat size) limit
    throw (.notReadable path .isDirectory)
  | unreadable reason => throw (.notReadable path (.other reason))

namespace Report

/-- The report on the bytes of a file. -/
def ofBytesWords (data : Bytes) (name : String) (catalog : Catalog) (limits : WordLimits) :
    Except ReportError Report := do
  checkSize (UInt64.ofNat data.size) limits.fileSize
  let image ← (Image.parse data limits.stringUnits.toNat).mapError .image
  return ofImage data name catalog image

/-- The report on the file at a path. -/
def ofPathWords (files : Files) (path name : String) (catalog : Catalog) (limits : WordLimits) :
    Except ReportError Report :=
  match files path with
  | .found node => do
    ofBytesWords (← node.readWords path limits.fileSize) name catalog limits
  | _ => throw (.fileNotFound path)

end Report

end DexTriage
