import DexTriage.Report

/-!
# Journals

What is logged while a report is made: the tables of the header up to the first one that is out of
place, the inconsistencies, the omitted texts, and two summaries.
-/

namespace DexTriage

/-- How important a line of a journal is. -/
inductive Level where
  | debug
  | info
  | warn
  deriving DecidableEq, Repr

/-- A line of a journal. -/
structure JournalLine where
  level : Level
  text : String
  deriving DecidableEq, Repr

namespace Journal

/-- The line on a table. -/
def tableLine (header : Header) (table : Table) : JournalLine :=
  let extent := header.extent table
  ⟨.debug, s!"{table.name}: {extent.count} items at 0x" ++ Hex.ofNat extent.offset.toNat
    ++ s!" ({header.tableSize table} bytes)"⟩

/-- The tables of a header up to the first one that does not lie within the image. -/
def checkedTables (header : Header) (size : Nat) : List Table :=
  let inside := header.tables.takeWhile (header.places size)
  inside ++ (header.tables.drop inside.length).take 1

/-- A version in three digits. -/
def versionText (version : Version) : String :=
  s!"0{version.number}"

/-- The lines on an image that could be read. -/
def imageLines (image : Image) : List JournalLine :=
  image.inconsistencies.map (fun i => ⟨.warn, i.message⟩)
    ++ image.pool.omitted.map (fun o =>
      ⟨.warn, s!"skipped string #{o.index}: " ++ o.error.message⟩)
    ++ [⟨.info, "parsed dex v" ++ versionText image.header.version
      ++ s!": {image.pool.strings.length} strings, {image.pool.omitted.length} omitted"⟩]

/-- The line on a finished report. -/
def findingsLine (snapshot : Snapshot) : JournalLine :=
  let f := snapshot.findings
  ⟨.info, snapshot.name ++ s!": {f.urls.length} urls, {f.shellCommands.length} shell commands, "
    ++ s!"{f.signatures.length} signatures"⟩

/-- The lines that making a report on the bytes of a file leaves. -/
def ofBytes (data : Bytes) (name : String) (catalog : Catalog) (limits : Limits) :
    List JournalLine :=
  if limits.fileSize < data.size then []
  else
    match Header.readChecked data with
    | .error _ => []
    | .ok header =>
      (checkedTables header data.size).map (tableLine header)
        ++ match Image.parse data limits.stringUnits with
          | .error _ => []
          | .ok image =>
            imageLines image ++ [findingsLine (Report.ofImage data name catalog image).snapshot]

end Journal

end DexTriage
