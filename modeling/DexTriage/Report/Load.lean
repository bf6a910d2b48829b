import DexTriage.Files.Tree
import DexTriage.Report

/-!
# Reports on files

A report is made of a file when its size is within the limit, first as the system tells it and then
as it was read: a file may grow in between, and never more than one byte beyond the limit is read.
-/

namespace DexTriage

/-- The bytes of a node, if there are not more of them than a limit. -/
def Node.read (path : String) (limit : Nat) : Node → Except ReportError Bytes
  | file size content =>
    if limit < size then .error (.fileTooLarge size limit)
    else
      let input := content.extract 0 (limit + 1)
      if limit < input.size then .error (.fileTooLarge input.size limit) else .ok input
  | directory size _ =>
    if limit < size then .error (.fileTooLarge size limit)
    else .error (.notReadable path .isDirectory)
  | unreadable reason => .error (.notReadable path (.other reason))

namespace Report

/-- The report on what a path leads to. -/
def ofLookup (path name : String) (catalog : Catalog) (limits : Limits) :
    Lookup → Except ReportError Report
  | .found node => do
    ofBytes (← node.read path limits.fileSize) name catalog limits
  | _ => .error (.fileNotFound path)

/-- The report on the file at a path. -/
def ofPath (files : Files) (path name : String) (catalog : Catalog) (limits : Limits) :
    Except ReportError Report :=
  ofLookup path name catalog limits (files path)

/-- The name under which the file at a path is reported. -/
def nameOfPath (path : String) : String :=
  (Path.fileName? path).getD ""

/-- The report on the file at a path under its own name, without signatures and with the standard
limits. -/
def ofPathAlone (files : Files) (path : String) : Except ReportError Report :=
  ofPath files path (nameOfPath path) {} {}

end Report

/-- The catalog in the file at a path. -/
def Catalog.ofPath (files : Files) (path : String) : Except ReportError Catalog :=
  match files path with
  | .absent => .error (.fileNotFound path)
  | .blocked reason => .error (.notReadable path (.other reason))
  | .found (.unreadable reason) => .error (.notReadable path (.other reason))
  | .found (.directory ..) => .error (.notReadable path .isDirectory)
  | .found (.file _ content) =>
    match String.fromUTF8? ⟨content⟩ with
    | some text => (Catalog.parse text).mapError .catalog
    | none => .error (.notReadable path .notText)

end DexTriage
