import DexTriage.Digest
import DexTriage.Image
import DexTriage.Image.Blueprint
import DexTriage.Image.Draft
import DexTriage.Image.Mutf8.Words
import DexTriage.Image.Uleb128.Words
import DexTriage.Unicode.Category
import DexTriage.Unicode.Class
import DexTriage.Unicode.Fold
import DexTriage.Unicode.Printable
import DexTriage.Unicode.Property
import DexTriage.Unicode.Script
import DexTriage.Unicode.ScriptExtension
import DexTriage.Url.Scan
import DexTriage.Pattern.Compile
import DexTriage.Text.Quoted
import DexTriage.Json.Writer
import DexTriage.Classification
import DexTriage.CommandLine
import DexTriage.Report.Journal
import DexTriage.Main
import DexTriage.Proofs.Bounds
import DexTriage.Proofs.Classification
import DexTriage.Proofs.Corruption
import DexTriage.Proofs.Growth
import DexTriage.Proofs.Mutf8.RoundTrip
import DexTriage.Proofs.Mutf8.Shortest
import DexTriage.Proofs.Report
import DexTriage.Proofs.Signature
import DexTriage.Proofs.Steps
import DexTriage.Proofs.StringPool.Accounts
import DexTriage.Proofs.StringPool.Limit
import DexTriage.Proofs.StringPool.Units
import DexTriage.Proofs.Url.Rescan
import DexTriage.Proofs.Mutf8.Refusal
import DexTriage.Proofs.CommandLine
import DexTriage.Proofs.Uleb128.Shortest
import DexTriage.Proofs.Url.Trim
import DexTriage.Proofs.Header.Seal
import DexTriage.Proofs.CommandLine.Workers
import DexTriage.Proofs.Files.Path
import DexTriage.Proofs.Files.Search
import DexTriage.Proofs.CommandLine.Listing
import DexTriage.Proofs.Signature.Catalog
import DexTriage.Proofs.Report.Snapshot
import DexTriage.Report.Load.Words
import DexTriage.Proofs.Report.Load
