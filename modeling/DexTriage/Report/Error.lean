import DexTriage.Image.Error
import DexTriage.Signature.Catalog

/-!
# Why there is no report

The causes for which a file cannot be reported on: it is missing, cannot be read, is too large or
no image, or the catalog of signatures cannot be used.
-/

namespace DexTriage

/-- Why a file was found but could not be read. -/
inductive ReadFault where
  | isDirectory
  | notText
  /-- What else the system says. -/
  | other (reason : String)
  deriving DecidableEq, Repr

/-- The wording of a fault. -/
def ReadFault.message : ReadFault → String
  | isDirectory => "Is a directory (os error 21)"
  | notText => "stream did not contain valid UTF-8"
  | other reason => reason

/-- Why there is no report on a file. -/
inductive ReportError where
  | fileNotFound (path : String)
  | notReadable (path : String) (fault : ReadFault)
  | fileTooLarge (size limit : Nat)
  | image (error : ImageError)
  | catalog (error : CatalogError)
  deriving DecidableEq, Repr

namespace ReportError

/-- The wording of an error. -/
def message : ReportError → String
  | fileNotFound path => "file not found: " ++ Text.quoted path
  | notReadable path _ => "can't read file: " ++ Text.quoted path
  | fileTooLarge size limit => s!"file too large: {size} bytes, limit is {limit}"
  | image error => error.message
  | catalog error => error.message

/-- The wording of an error, and of what stood behind it if a file could not be read. The cause of
an error in a catalog, why its text is no JSON or a pattern in it no expression, is left out. -/
def chain : ReportError → String
  | notReadable path fault => (notReadable path fault).message ++ ": " ++ fault.message
  | error => error.message

end ReportError

end DexTriage
