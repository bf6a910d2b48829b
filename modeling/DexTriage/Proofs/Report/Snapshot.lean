import Mathlib
import DexTriage.Limits
import DexTriage.Proofs.Json.Member
import DexTriage.Proofs.Report

/-!
# Snapshots in JSON

A snapshot is read back from its JSON value by the keys of its members (`Snapshot.ofJson?_toJson`),
those of the digests and the findings among its own, and the value from its text, which spells
nothing else (`Snapshot.spells_text_iff`, `Snapshot.text_inj`). The numbers of a report fit into 64
bits if the file does, so that a strict reader takes it (`Report.lt_of_mem_numbers`).
-/

namespace DexTriage

/-- The word that a value is. -/
def Json.word? (json : Json) : Option UInt32 :=
  (Limits.number? UInt32.size json).map UInt32.ofNat

@[simp] lemma Json.word?_ofNat (word : UInt32) : word? (.ofNat word.toNat) = some word := by
  have read : Limits.number? UInt32.size (.ofNat word.toNat) = some word.toNat := by
    rw [ofNat, Limits.number?, Number.toNat?_ofNat, Option.filter_some, if_pos]
    exact decide_eq_true word.toNat_lt
  rw [word?, read, Option.map_some, UInt32.ofNat_toNat]

namespace HeaderSummary

/-- The keys of a summary. -/
def keys : List String :=
  ["version", "checksum", "signature", "file_size", "header_size", "endian_tag", "string_ids_size",
    "type_ids_size", "proto_ids_size", "field_ids_size", "method_ids_size", "class_defs_size",
    "data_size"]

/-- No key of a summary occurs twice. -/
lemma nodup_keys : keys.Nodup := by decide

/-- The summary with the given values, in the order of the keys. -/
def ofRow? : List Json → Option HeaderSummary
  | [version, checksum, signature, fileSize, headerSize, endianTag, stringIds, typeIds, protoIds,
      fieldIds, methodIds, classDefs, dataSize] => do
    return {
      version := ← version.toNat?
      checksum := ← checksum.toText?
      signature := ← signature.toText?
      fileSize := ← fileSize.toNat?
      headerSize := ← headerSize.toNat?
      endianTag := ← endianTag.toText?
      stringIds := ← stringIds.toNat?
      typeIds := ← typeIds.toNat?
      protoIds := ← protoIds.toNat?
      fieldIds := ← fieldIds.toNat?
      methodIds := ← methodIds.toNat?
      classDefs := ← classDefs.toNat?
      dataSize := ← dataSize.toNat? }
  | _ => none

/-- The summary that a value describes. -/
def ofJson? (json : Json) : Option HeaderSummary :=
  (json.row? keys).bind ofRow?

/-- A summary is read back. -/
lemma ofJson?_toJson (summary : HeaderSummary) : ofJson? summary.toJson = some summary := by
  have row : summary.toJson.row? keys = some _ := Json.row?_ofMembers nodup_keys
  rw [ofJson?, row, Option.bind_some]
  simp only [List.map_cons, List.map_nil, ofRow?, Option.bind_eq_bind, Option.bind_some,
    Json.toNat?_ofNat, Json.toText?_ofString]
  rfl

end HeaderSummary

namespace Inconsistency

/-- The inconsistency that a value describes. -/
def ofJson? (json : Json) : Option Inconsistency := do
  match ← (← json.member? "kind").toText? with
  | "file_size_mismatch" =>
    return .fileSizeMismatch (← (← json.member? "declared").toNat?)
      (← (← json.member? "actual").toNat?)
  | "checksum_mismatch" =>
    return .checksumMismatch (← (← json.member? "declared").word?)
      (← (← json.member? "computed").word?)
  | "signature_mismatch" => return .signatureMismatch
  | "reverse_endian" => return .reverseEndian
  | "unknown_endian" => return .unknownEndian (← (← json.member? "tag").word?)
  | _ => none

/-- No key of an inconsistency occurs twice. -/
lemma nodup_keys (inconsistency : Inconsistency) : (inconsistency.members.map Prod.fst).Nodup := by
  cases inconsistency <;> simp [members]

/-- An inconsistency is read back. -/
lemma ofJson?_members (inconsistency : Inconsistency) :
    ofJson? (.ofMembers inconsistency.members) = some inconsistency := by
  cases inconsistency with
  | fileSizeMismatch declared actual =>
    simp [ofJson?, members, Json.ofMembers, Json.member?]
  | checksumMismatch declared computed =>
    simp [ofJson?, members, Json.ofMembers, Json.member?]
  | signatureMismatch => rfl
  | reverseEndian => rfl
  | unknownEndian tag => simp [ofJson?, members, Json.ofMembers, Json.member?]

end Inconsistency

namespace Snapshot

/-- The keys of a snapshot. -/
def keys : List String :=
  ["name", "size", "md5", "sha1", "sha256", "sha512", "strings", "urls", "shell_commands",
    "custom_signatures", "header", "inconsistencies", "omitted_strings"]

/-- No key of a snapshot occurs twice, be it its own or one of the digests or the findings. -/
lemma nodup_keys : keys.Nodup := by decide

/-- The snapshot with the given values, in the order of the keys. -/
def ofRow? : List Json → Option Snapshot
  | [name, size, md5, sha1, sha256, sha512, strings, urls, shellCommands, signatures, header,
      inconsistencies, omitted] => do
    return {
      name := ← name.toText?
      size := ← size.toNat?
      digests := {
        md5 := ← md5.toText?
        sha1 := ← sha1.toText?
        sha256 := ← sha256.toText?
        sha512 := ← sha512.toText? }
      strings := ← strings.toList? Json.toText?
      findings := {
        urls := ← urls.toList? Json.toText?
        shellCommands := ← shellCommands.toList? Json.toText?
        signatures := ← signatures.toList? Json.toText? }
      header := ← HeaderSummary.ofJson? header
      inconsistencies := ← inconsistencies.toList? Inconsistency.ofJson?
      omitted := ← omitted.toNat? }
  | _ => none

/-- The snapshot that a value describes. -/
def ofJson? (json : Json) : Option Snapshot :=
  (json.row? keys).bind ofRow?

/-- The snapshot that a text describes. -/
def parse? (text : String) : Option Snapshot :=
  (Json.parse? text).bind ofJson?

/-- A snapshot is read back. -/
lemma ofJson?_toJson (snapshot : Snapshot) : ofJson? snapshot.toJson = some snapshot := by
  have row : snapshot.toJson.row? keys = some _ := Json.row?_ofMembers nodup_keys
  have inconsistencies := Json.toList?_map Inconsistency.ofJson?_members snapshot.inconsistencies
  rw [ofJson?, row, Option.bind_some]
  simp only [List.map_cons, List.map_nil, ofRow?, Option.bind_eq_bind, Option.bind_some,
    Json.toNat?_ofNat, Json.toText?_ofString, Json.toList?_ofStrings,
    HeaderSummary.ofJson?_toJson, inconsistencies]
  rfl

end Snapshot

/-! ## Numbers -/

/-- The numbers in a summary. -/
def HeaderSummary.numbers (summary : HeaderSummary) : List Nat :=
  [summary.version, summary.fileSize, summary.headerSize, summary.stringIds, summary.typeIds,
    summary.protoIds, summary.fieldIds, summary.methodIds, summary.classDefs, summary.dataSize]

/-- The numbers in an inconsistency. -/
def Inconsistency.numbers : Inconsistency → List Nat
  | fileSizeMismatch declared actual => [declared, actual]
  | checksumMismatch declared computed => [declared.toNat, computed.toNat]
  | signatureMismatch => []
  | reverseEndian => []
  | unknownEndian tag => [tag.toNat]

/-- The numbers in a snapshot. -/
def Snapshot.numbers (snapshot : Snapshot) : List Nat :=
  snapshot.size :: snapshot.omitted ::
    (snapshot.header.numbers ++ snapshot.inconsistencies.flatMap Inconsistency.numbers)

section Plain

variable {fits : Nat → Prop} {depth : Nat}

/-- A summary is plain. -/
lemma HeaderSummary.isPlain_toJson {summary : HeaderSummary}
    (small : ∀ n ∈ summary.numbers, fits n) : Json.IsPlain fits (depth + 1) summary.toJson := by
  refine .object nodup_keys ?_
  simp only [numbers, List.forall_mem_cons] at small
  obtain ⟨version, fileSize, headerSize, stringIds, typeIds, protoIds, fieldIds, methodIds,
    classDefs, dataSize, -⟩ := small
  simp only [List.forall_mem_cons]
  exact ⟨.number version, .text, .text, .number fileSize, .number headerSize, .text,
    .number stringIds, .number typeIds, .number protoIds, .number fieldIds, .number methodIds,
    .number classDefs, .number dataSize, nofun⟩

/-- An inconsistency is plain. -/
lemma Inconsistency.isPlain_members {inconsistency : Inconsistency}
    (small : ∀ n ∈ inconsistency.numbers, fits n) :
    Json.IsPlain fits (depth + 1) (.ofMembers inconsistency.members) := by
  refine .object inconsistency.nodup_keys ?_
  cases inconsistency with
  | fileSizeMismatch declared actual =>
    simp only [numbers, List.forall_mem_cons] at small
    simp only [members, List.forall_mem_cons]
    exact ⟨.text, .number small.1, .number small.2.1, List.forall_mem_nil _⟩
  | checksumMismatch declared computed =>
    simp only [numbers, List.forall_mem_cons] at small
    simp only [members, List.forall_mem_cons]
    exact ⟨.text, .number small.1, .number small.2.1, List.forall_mem_nil _⟩
  | signatureMismatch => exact List.forall_mem_singleton.2 .text
  | reverseEndian => exact List.forall_mem_singleton.2 .text
  | unknownEndian tag =>
    simp only [numbers, List.forall_mem_cons] at small
    simp only [members, List.forall_mem_cons]
    exact ⟨.text, .number small.1, List.forall_mem_nil _⟩

/-- A snapshot is plain. -/
lemma Snapshot.isPlain_toJson {snapshot : Snapshot} (small : ∀ n ∈ snapshot.numbers, fits n) :
    Json.IsPlain fits (depth + 3) snapshot.toJson := by
  simp only [numbers, List.forall_mem_cons, List.forall_mem_append] at small
  obtain ⟨size, omitted, header, inconsistencies⟩ := small
  have list : Json.IsPlain fits (depth + 2)
      (.list (snapshot.inconsistencies.map fun i => .ofMembers i.members)) := by
    refine .list fun item mem => ?_
    obtain ⟨inconsistency, inside, rfl⟩ := List.mem_map.1 mem
    exact Inconsistency.isPlain_members fun n mem =>
      inconsistencies n (List.mem_flatMap.2 ⟨inconsistency, inside, mem⟩)
  refine .object nodup_keys ?_
  simp only [List.forall_mem_cons]
  exact ⟨.text, .number size, .text, .text, .text, .text, Json.isPlain_ofStrings _,
    Json.isPlain_ofStrings _, Json.isPlain_ofStrings _, Json.isPlain_ofStrings _,
    HeaderSummary.isPlain_toJson header, list, .number omitted, nofun⟩

end Plain

/-! ## Texts -/

namespace Snapshot

variable (snapshot : Snapshot) (pretty : Bool)

/-- The text of a snapshot, over several lines or on one. -/
def text : String :=
  String.ofList (snapshot.toJson.write pretty 0)

/-- Whatever its numbers are, a snapshot is plain. -/
lemma isPlain : Json.IsPlain (fun _ => True) 3 snapshot.toJson :=
  isPlain_toJson fun _ _ => trivial

/-- The text of a snapshot has the value of the snapshot. -/
lemma json_text : Json.parse? (snapshot.text pretty) = some snapshot.toJson :=
  snapshot.isPlain.isWritable.parse?_write pretty 0

/-- The text of a snapshot spells the value of the snapshot and nothing else. -/
lemma spells_text_iff {json : Json} :
    Json.Spells (snapshot.text pretty).toList json ↔ json = snapshot.toJson := by
  rw [← Json.parse?_eq_some_iff, json_text, Option.some_inj]
  exact eq_comm

/-- A snapshot is read back from its text. -/
lemma parse?_text : parse? (snapshot.text pretty) = some snapshot := by
  rw [parse?, json_text, Option.bind_some, ofJson?_toJson]

/-- Snapshots with the same text are equal. -/
lemma text_inj {one other : Snapshot} :
    one.text pretty = other.text pretty ↔ one = other := by
  refine ⟨fun same => ?_, fun same => same ▸ rfl⟩
  have read := congrArg parse? same
  rwa [parse?_text, parse?_text, Option.some_inj] at read

end Snapshot

/-! ## Reports -/

/-- A word is no larger than 64 bits allow. -/
lemma toNat_lt_size (word : UInt32) : word.toNat < UInt64.size :=
  word.toNat_lt.trans (by decide)

/-- Every number in the summary of a header fits into 64 bits. -/
lemma Header.lt_of_mem_numbers (header : Header) :
    ∀ n ∈ header.summary.numbers, n < UInt64.size := by
  have version : header.version.number < UInt64.size := by
    cases header.version <;> decide
  simp only [HeaderSummary.numbers, Header.summary, List.forall_mem_cons]
  exact ⟨version, toNat_lt_size _, toNat_lt_size _, toNat_lt_size _, toNat_lt_size _,
    toNat_lt_size _, toNat_lt_size _, toNat_lt_size _, toNat_lt_size _, toNat_lt_size _, nofun⟩

/-- Every number in an inconsistency of a file that fits into 64 bits does so itself. -/
lemma Header.lt_of_mem_inconsistencies {data : Bytes} (small : data.size < UInt64.size)
    (header : Header) : ∀ inconsistency ∈ header.inconsistencies data,
      ∀ n ∈ inconsistency.numbers, n < UInt64.size := by
  have word := toNat_lt_size
  intro inconsistency mem
  simp only [Header.inconsistencies, List.mem_append] at mem
  obtain ((mem | mem) | mem) | mem := mem
  · split at mem
    · cases mem
    · rw [List.mem_singleton.1 mem]
      simp [Inconsistency.numbers, word, small]
  · split at mem
    · cases mem
    · rw [List.mem_singleton.1 mem]
      simp [Inconsistency.numbers, word]
  · split at mem
    · cases mem
    · rw [List.mem_singleton.1 mem]
      exact nofun
  · split_ifs at mem
    · cases mem
    · rw [List.mem_singleton.1 mem]
      exact nofun
    · rw [List.mem_singleton.1 mem]
      simp [Inconsistency.numbers, word]

namespace Report

variable {data : Bytes} {name : String} {catalog : Catalog} {limits : Limits} {report : Report}

/-- Every number in the snapshot of a file that fits into 64 bits does so itself. -/
lemma lt_of_mem_numbers (made : ofBytes data name catalog limits = .ok report)
    (small : data.size < UInt64.size) : ∀ n ∈ report.snapshot.numbers, n < UInt64.size := by
  obtain ⟨-, -, facts, pool, omitted⟩ := of_ofBytes made
  have size : report.snapshot.size = data.size := congrArg Facts.size facts
  have summary : report.snapshot.header = report.header.summary := congrArg Facts.summary facts
  have inconsistencies : report.snapshot.inconsistencies = report.header.inconsistencies data :=
    congrArg Facts.inconsistencies facts
  have total := (StringPool.accounts_ofEntries report.header.stringIds.count.toNat
    (StringPool.entry data report.header limits.stringUnits)).total
  rw [← StringPool.read, ← pool] at total
  have few : report.omitted.length ≤ report.header.stringIds.count.toNat :=
    (Nat.le_add_left ..).trans_eq total
  simp only [Snapshot.numbers, List.forall_mem_cons, List.forall_mem_append, size, summary,
    inconsistencies, omitted]
  refine ⟨small, few.trans_lt (toNat_lt_size _), report.header.lt_of_mem_numbers, fun n mem => ?_⟩
  obtain ⟨inconsistency, inside, mem⟩ := List.mem_flatMap.1 mem
  exact report.header.lt_of_mem_inconsistencies small inconsistency inside n mem

/-- What is written of the snapshot of a report, on one line or over several, is an object and
nothing else. No key occurs twice in it, the keys of digests and findings among its own included,
and a strict reader takes it. All values of the snapshot are read back by those keys; so another
snapshot is written alike exactly if it is equal. -/
theorem json_loses_nothing (made : ofBytes data name catalog limits = .ok report) :
    (∃ members, report.snapshot.toJson = .object members ∧ (members.map Prod.fst).Nodup) ∧
    report.snapshot.toJson.IsUnambiguous ∧
    (data.size < UInt64.size → report.snapshot.toJson.isStrict = true) ∧
    (∀ text ∈ [report.snapshot.toJson.compact, report.snapshot.toJson.indented],
      (∀ json, Json.Spells text.toList json ↔ json = report.snapshot.toJson) ∧
      Json.parse? text = some report.snapshot.toJson ∧
      Snapshot.parse? text = some report.snapshot) ∧
    ∀ other : Snapshot,
      (report.snapshot.toJson.compact = other.toJson.compact ↔ report.snapshot = other) ∧
      (report.snapshot.toJson.indented = other.toJson.indented ↔ report.snapshot = other) := by
  have unambiguous := report.snapshot.isPlain.isUnambiguous
  refine ⟨⟨_, rfl, ?_⟩, unambiguous, fun small => ?_, fun text mem => ?_, fun other => ?_⟩
  · cases unambiguous with
    | object distinct => exact distinct
  · have plain : Json.IsPlain (· < UInt64.size) 127 report.snapshot.toJson :=
      Snapshot.isPlain_toJson (lt_of_mem_numbers made small)
    exact plain.isStrictWithin
  · obtain ⟨pretty, rfl⟩ : ∃ pretty, text = report.snapshot.text pretty := by
      obtain rfl | rfl | nothing := List.mem_cons.1 mem |>.imp_right List.mem_cons.1
      · exact ⟨false, rfl⟩
      · exact ⟨true, rfl⟩
      · cases nothing
    exact ⟨fun json => report.snapshot.spells_text_iff pretty,
      report.snapshot.json_text pretty, report.snapshot.parse?_text pretty⟩
  · exact ⟨Snapshot.text_inj false, Snapshot.text_inj true⟩

/-- Two names of which one has the escapes that the other is written with: what is written of an
image under them differs, and the one with a line break and a control is read back. -/
theorem json_loses_nothing_of_escapes :
    ∃ report report',
      ofBytes StringPool.shortImage "é\n\x01\"" {} ⟨118, 100⟩ = .ok report ∧
      ofBytes StringPool.shortImage "é\\n\\u0001\\\"" {} ⟨118, 100⟩ = .ok report' ∧
      report.snapshot.toJson.isStrict = true ∧
      Snapshot.parse? report.snapshot.toJson.indented = some report.snapshot ∧
      report.snapshot.toJson.compact ≠ report'.snapshot.toJson.compact := by
  have accepted : Header.parse StringPool.shortImage = .ok StringPool.shortHeader := by
    decide +kernel
  have size : StringPool.shortImage.size = 118 := by decide +kernel
  have made (name : String) : ofBytes StringPool.shortImage name {} ⟨118, 100⟩ = .ok _ :=
    ofBytes_eq_iff_outcome.2 (.success size.le accepted)
  obtain ⟨-, -, strict, texts, others⟩ := json_loses_nothing (made "é\n\x01\"")
  refine ⟨_, _, made _, made _, strict ?_, (texts _ ?_).2.2, fun same => ?_⟩
  · exact size.trans_lt (by decide)
  · exact List.mem_cons_of_mem _ (List.mem_singleton_self _)
  · have names := congrArg Snapshot.name ((others _).1.1 same)
    exact absurd names (by decide)

end Report

end DexTriage
