import DexTriage.CommandLine.Batch
import DexTriage.CommandLine.Request
import DexTriage.Report.Load
import DexTriage.Report.Summary

/-!
# The command line

What a request prints and which exit code it has. A file without a report does not keep another from
being reported on: it is named among the errors, and counted at the end of them.
-/

namespace DexTriage

/-- What running the program leaves. -/
structure Outcome where
  code : Nat := 0
  stdout : String := ""
  stderr : String := ""
  deriving DecidableEq, Repr

namespace CommandLine

/-- Lines as a text in which each of them ends with a line feed. -/
def unlines (lines : List String) : String :=
  String.join (lines.map (· ++ "\n"))

/-- The line on a file of which there is no report. -/
def failureLine (path : String) (error : ReportError) : String :=
  "got error while parsing dex: " ++ Text.quoted path ++ ": " ++ error.chain

/-- The line on a file of signatures that is of no use. -/
def catalogLine (path : String) (error : ReportError) : String :=
  "can't load signatures: " ++ Text.quoted path ++ ": " ++ error.chain

/-- The line on an omitted text. -/
def omissionLine (omission : Omission) : String :=
  s!"omitted: string #{omission.index}: " ++ omission.error.message

/-- The snapshot of what a path leads to, under the name of the file, or the line on its failure. -/
def triage (catalog : Catalog) (limits : Limits) (path : String) (lookup : Lookup) :
    Except String Snapshot :=
  match Report.ofLookup path (Report.nameOfPath path) catalog limits lookup with
  | .ok report => .ok report.snapshot
  | .error error => .error (failureLine path error)

/-- Snapshots as they are printed. -/
def printed (json : Bool) (snapshots : List Snapshot) : String :=
  if json then (Json.list (snapshots.map Snapshot.toJson)).indented ++ "\n"
  else unlines (List.intercalate [""] (snapshots.map Snapshot.lines))

/-- The snapshots among the results. -/
def successes (results : List (Except String Snapshot)) : List Snapshot :=
  results.filterMap Except.toOption

/-- The lines on failures among the results. -/
def failures (results : List (Except String Snapshot)) : List String :=
  results.filterMap fun result =>
    match result with
    | .error line => some line
    | .ok _ => none

/-- What the results for all files leave. -/
def outcomeOf (json : Bool) (results : List (Except String Snapshot)) : Outcome :=
  let failed := failures results
  let verdict :=
    if failed.isEmpty then [] else [s!"{failed.length} of {results.length} files failed"]
  { code := if failed.isEmpty then 0 else 1
    stdout := printed json (successes results)
    stderr := unlines (failed ++ verdict) }

/-- The catalog of a request: the one in a file, or an empty one. -/
def catalogFor (files : Files) : Option String → Except String Catalog
  | none => .ok {}
  | some path => (Catalog.ofPath files path).mapError (catalogLine path)

/-- The extension of the files that a directory stands for. -/
def imageExtension : String := "dex"

/-- Reports on files. -/
def report (files : Files) (paths : List String) (json : Bool) (signatures : Option String)
    (jobs : Nat) (limits : Limits) : Outcome :=
  match catalogFor files signatures with
  | .error line => { code := 1, stderr := unlines [line] }
  | .ok catalog =>
    outcomeOf json (Batch.map jobs (fun (path, lookup) => triage catalog limits path lookup)
      (files.select imageExtension paths))

/-- The texts of one image, and why others are omitted. -/
def listing (files : Files) (path : String) (limits : Limits) : Outcome :=
  match Report.ofPath files path (Report.nameOfPath path) {} limits with
  | .error error => { code := 1, stderr := unlines [failureLine path error] }
  | .ok report =>
    { stdout := unlines (report.snapshot.strings.map Text.listed)
      stderr := unlines (report.omitted.map omissionLine) }

/-- How the program is used. -/
def usage : String :=
  unlines
    ["usage: dextriage show [--json] [-s FILE] [-j JOBS] [--max-size BYTES]",
      "                 [--max-string-len UNITS] PATH...",
      "       dextriage strings [--max-size BYTES] [--max-string-len UNITS] PATH"]

/-- What a request leaves. -/
def answer (files : Files) : Request → Outcome
  | .report paths json signatures jobs limits => report files paths json signatures jobs limits
  | .listing path limits => listing files path limits

/-- What running the program with arguments leaves. -/
def run (files : Files) (arguments : List String) : Outcome :=
  match Request.read arguments with
  | .ok request => answer files request
  | .error .usage => { stdout := usage }
  | .error .invalid => { code := 2, stderr := usage }

end CommandLine

end DexTriage
