import DexTriage.Limits
import DexTriage.Report.Error
import DexTriage.Report.Snapshot

/-!
# Reports

A report is made from the bytes of a file, a catalog and limits. A file that is too large or has no
proper header is refused; nothing else in a file can prevent a report.
-/

namespace DexTriage

/-- A report on one image. -/
structure Report where
  /-- The whole file. -/
  raw : Bytes
  header : Header
  omitted : List Omission
  snapshot : Snapshot
  deriving DecidableEq, Repr

/-- The report on an image that has been read from a file. -/
def Report.ofImage (data : Bytes) (name : String) (catalog : Catalog) (image : Image) : Report where
  raw := data
  header := image.header
  omitted := image.pool.omitted
  snapshot :=
    { name
      size := data.size
      digests := Digests.ofBytes data
      strings := image.pool.strings
      findings := catalog.classify image.pool.strings
      header := image.header.summary
      inconsistencies := image.inconsistencies
      omitted := image.pool.omitted.length }

/-- The report on the bytes of a file. -/
def Report.ofBytes (data : Bytes) (name : String) (catalog : Catalog) (limits : Limits) :
    Except ReportError Report :=
  if limits.fileSize < data.size then
    .error (.fileTooLarge data.size limits.fileSize)
  else
    match Image.parse data limits.stringUnits with
    | .ok image => .ok (ofImage data name catalog image)
    | .error error => .error (.image error)

end DexTriage
