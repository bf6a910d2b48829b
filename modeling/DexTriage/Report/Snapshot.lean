import DexTriage.Classification
import DexTriage.Digest
import DexTriage.Image
import DexTriage.Json.Writer

/-!
# Snapshots

Everything that is reported of one image, and its form as a JSON object: digests and findings stand
beside the other members, not in objects of their own.
-/

namespace DexTriage

/-- The values of a header that are reported. -/
structure HeaderSummary where
  version : Nat
  checksum : String
  signature : String
  fileSize : Nat
  headerSize : Nat
  endianTag : String
  stringIds : Nat
  typeIds : Nat
  protoIds : Nat
  fieldIds : Nat
  methodIds : Nat
  classDefs : Nat
  dataSize : Nat
  deriving DecidableEq, Repr

/-- The values of a header that are reported. -/
def Header.summary (header : Header) : HeaderSummary where
  version := header.version.number
  checksum := "0x" ++ Hex.ofWord header.checksum
  signature := Hex.ofBytes header.signature
  fileSize := header.fileSize.toNat
  headerSize := header.headerSize.toNat
  endianTag := "0x" ++ Hex.ofWord header.endianTag
  stringIds := header.stringIds.count.toNat
  typeIds := header.typeIds.count.toNat
  protoIds := header.protoIds.count.toNat
  fieldIds := header.fieldIds.count.toNat
  methodIds := header.methodIds.count.toNat
  classDefs := header.classDefs.count.toNat
  dataSize := header.data.count.toNat

/-- A summary as a JSON object. -/
def HeaderSummary.toJson (summary : HeaderSummary) : Json :=
  .ofMembers
    [("version", .ofNat summary.version),
      ("checksum", .ofString summary.checksum),
      ("signature", .ofString summary.signature),
      ("file_size", .ofNat summary.fileSize),
      ("header_size", .ofNat summary.headerSize),
      ("endian_tag", .ofString summary.endianTag),
      ("string_ids_size", .ofNat summary.stringIds),
      ("type_ids_size", .ofNat summary.typeIds),
      ("proto_ids_size", .ofNat summary.protoIds),
      ("field_ids_size", .ofNat summary.fieldIds),
      ("method_ids_size", .ofNat summary.methodIds),
      ("class_defs_size", .ofNat summary.classDefs),
      ("data_size", .ofNat summary.dataSize)]

/-- The members that describe an inconsistency. -/
def Inconsistency.members : Inconsistency → List (String × Json)
  | fileSizeMismatch declared actual =>
    [("kind", .ofString "file_size_mismatch"), ("declared", .ofNat declared),
      ("actual", .ofNat actual)]
  | checksumMismatch declared computed =>
    [("kind", .ofString "checksum_mismatch"), ("declared", .ofNat declared.toNat),
      ("computed", .ofNat computed.toNat)]
  | signatureMismatch => [("kind", .ofString "signature_mismatch")]
  | reverseEndian => [("kind", .ofString "reverse_endian")]
  | unknownEndian tag => [("kind", .ofString "unknown_endian"), ("tag", .ofNat tag.toNat)]

/-- Everything that is reported of one image. -/
structure Snapshot where
  name : String
  size : Nat
  digests : Digests
  strings : List String
  findings : Classification
  header : HeaderSummary
  inconsistencies : List Inconsistency
  /-- The count of texts that could not be read. -/
  omitted : Nat
  deriving DecidableEq, Repr

/-- A snapshot as a JSON object. -/
def Snapshot.toJson (snapshot : Snapshot) : Json :=
  .ofMembers
    [("name", .ofString snapshot.name),
      ("size", .ofNat snapshot.size),
      ("md5", .ofString snapshot.digests.md5),
      ("sha1", .ofString snapshot.digests.sha1),
      ("sha256", .ofString snapshot.digests.sha256),
      ("sha512", .ofString snapshot.digests.sha512),
      ("strings", .ofStrings snapshot.strings),
      ("urls", .ofStrings snapshot.findings.urls),
      ("shell_commands", .ofStrings snapshot.findings.shellCommands),
      ("custom_signatures", .ofStrings snapshot.findings.signatures),
      ("header", snapshot.header.toJson),
      ("inconsistencies", .list (snapshot.inconsistencies.map fun i => .ofMembers i.members)),
      ("omitted_strings", .ofNat snapshot.omitted)]

end DexTriage
