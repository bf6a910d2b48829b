import Mathlib
import DexTriage.Proofs.Image
import DexTriage.Proofs.StringPool.Accounts
import DexTriage.Report

/-!
# What a report depends on

A file is refused for its size or for its header, and otherwise there is a report
(`Report.ofBytes_eq_iff_outcome`); a text that cannot be read is only counted. `Report.Facts` are what
a report says about the bytes alone, and `Report.pool` is what the limit on texts decides besides.
No setting comes into the facts, and of a report the catalog decides nothing but the labels
(`Report.settings_stay_out`).
-/

namespace DexTriage.Report

/-- What a report says about the bytes alone. -/
structure Facts where
  size : Nat
  header : Header
  summary : HeaderSummary
  inconsistencies : List Inconsistency
  digests : Digests

/-- The facts about a file with the given header. -/
def Facts.of (data : Bytes) (header : Header) : Facts where
  size := data.size
  header := header
  summary := header.summary
  inconsistencies := header.inconsistencies data
  digests := Digests.ofBytes data

/-- The facts that a report states. -/
def facts (report : Report) : Facts where
  size := report.snapshot.size
  header := report.header
  summary := report.snapshot.header
  inconsistencies := report.snapshot.inconsistencies
  digests := report.snapshot.digests

/-- The texts and omissions that a report lists. -/
def pool (report : Report) : StringPool where
  strings := report.snapshot.strings
  omitted := report.omitted

/-- A report without the labels of signatures. -/
def unlabelled (report : Report) : Report :=
  { report with
    snapshot := { report.snapshot with
      findings := { report.snapshot.findings with signatures := [] } } }

/-- What comes of a file. -/
inductive Outcome (data : Bytes) (name : String) (catalog : Catalog) (limits : Limits) :
    Except ReportError Report → Prop where
  | tooLarge :
    limits.fileSize < data.size →
    Outcome data name catalog limits (.error (.fileTooLarge data.size limits.fileSize))
  | noImage {e} :
    data.size ≤ limits.fileSize →
    Header.parse data = .error e →
    Outcome data name catalog limits (.error (.image e))
  | success {header} :
    data.size ≤ limits.fileSize →
    Header.parse data = .ok header →
    Outcome data name catalog limits (.ok (ofImage data name catalog
      ⟨header, header.inconsistencies data, StringPool.read data header limits.stringUnits⟩))

variable {data : Bytes} {name : String} {catalog : Catalog} {limits : Limits}

/-- Every outcome is the one that making a report gives. -/
lemma Outcome.eq_ofBytes {outcome} (out : Outcome data name catalog limits outcome) :
    ofBytes data name catalog limits = outcome := by
  cases out with
  | tooLarge large => rw [ofBytes, if_pos large]
  | noImage small refused =>
    rw [ofBytes, if_neg (not_lt.2 small), Image.parse_eq_error_iff.2 refused]
  | success small accepted =>
    rw [ofBytes, if_neg (not_lt.2 small), Image.parse_eq_ok_iff.2 ⟨_, accepted, rfl⟩]

/-- What making a report gives is an outcome of the file. -/
lemma outcome_ofBytes (data name catalog limits) :
    Outcome data name catalog limits (ofBytes data name catalog limits) := by
  by_cases small : data.size ≤ limits.fileSize
  · cases parsed : Header.parse data with
    | error e =>
      have out : Outcome data name catalog limits _ := .noImage small parsed
      rwa [out.eq_ofBytes]
    | ok header =>
      have out : Outcome data name catalog limits _ := .success small parsed
      rwa [out.eq_ofBytes]
  · have out : Outcome data name catalog limits _ := .tooLarge (not_le.1 small)
    rwa [out.eq_ofBytes]

/-- Making a report gives the outcome that the file has, and no other. -/
lemma ofBytes_eq_iff_outcome {outcome} :
    ofBytes data name catalog limits = outcome ↔ Outcome data name catalog limits outcome := by
  constructor
  · rintro rfl
    exact outcome_ofBytes data name catalog limits
  · exact Outcome.eq_ofBytes

/-- A file is refused for its size exactly if it is larger than the limit. -/
lemma ofBytes_eq_tooLarge_iff :
    ofBytes data name catalog limits = .error (.fileTooLarge data.size limits.fileSize) ↔
      limits.fileSize < data.size := by
  rw [ofBytes_eq_iff_outcome]
  constructor
  · intro out
    cases out with
    | tooLarge large => exact large
  · exact .tooLarge

/-- A file that is not too large is refused for what its header is refused for. -/
lemma ofBytes_eq_noImage_iff {e} :
    ofBytes data name catalog limits = .error (.image e) ↔
      data.size ≤ limits.fileSize ∧ Header.parse data = .error e := by
  rw [ofBytes_eq_iff_outcome]
  constructor
  · intro out
    cases out with
    | noImage small refused => exact ⟨small, refused⟩
  · rintro ⟨small, refused⟩
    exact .noImage small refused

/-- What a report says of the bytes and of the texts. -/
lemma of_ofBytes {report} (made : ofBytes data name catalog limits = .ok report) :
    data.size ≤ limits.fileSize ∧ Header.parse data = .ok report.header ∧
      report.facts = .of data report.header ∧
      report.pool = StringPool.read data report.header limits.stringUnits ∧
      report.snapshot.omitted = report.omitted.length := by
  rw [ofBytes_eq_iff_outcome] at made
  cases made with
  | success small accepted => exact ⟨small, accepted, rfl, rfl, rfl⟩

/-- There is a report exactly on a file that is not too large and has a proper header. -/
lemma exists_report_iff :
    (∃ report, ofBytes data name catalog limits = .ok report) ↔
      data.size ≤ limits.fileSize ∧ ∃ header, Header.parse data = .ok header := by
  constructor
  · rintro ⟨report, made⟩
    obtain ⟨small, accepted, -⟩ := of_ofBytes made
    exact ⟨small, _, accepted⟩
  · rintro ⟨small, header, accepted⟩
    exact ⟨_, ofBytes_eq_iff_outcome.2 (.success small accepted)⟩

/-- Two reports on the same bytes state the same facts, and under the same limit on texts they list
the same texts and omissions. -/
lemma facts_eq_of_ofBytes {name' catalog' limits' report report'}
    (made : ofBytes data name catalog limits = .ok report)
    (made' : ofBytes data name' catalog' limits' = .ok report') :
    report'.facts = report.facts ∧
      (limits'.stringUnits = limits.stringUnits → report'.pool = report.pool) := by
  obtain ⟨-, accepted, facts, pool, -⟩ := of_ofBytes made
  obtain ⟨-, accepted', facts', pool', -⟩ := of_ofBytes made'
  have header : report'.header = report.header := Except.ok.inj (accepted'.symm.trans accepted)
  refine ⟨?_, fun same => ?_⟩
  · rw [facts, facts', header]
  · rw [pool, pool', header, same]

/-- The catalog decides nothing but the labels. -/
lemma map_unlabelled_ofBytes (data name catalog catalog' limits) :
    (ofBytes data name catalog' limits).map unlabelled =
      (ofBytes data name catalog limits).map unlabelled := by
  obtain ⟨outcome, made⟩ : ∃ outcome, ofBytes data name catalog limits = outcome := ⟨_, rfl⟩
  rw [made]
  have out := ofBytes_eq_iff_outcome.1 made
  cases out with
  | tooLarge large => rw [ofBytes_eq_tooLarge_iff.2 large]
  | noImage small refused => rw [ofBytes_eq_noImage_iff.2 ⟨small, refused⟩]
  | success small accepted =>
    rw [ofBytes_eq_iff_outcome.2 (.success small accepted)]
    rfl

/-- A file is refused for its size, or for its header, or reported on: no text in it can prevent
that, since every string id that has no text is an omission. The facts of a report are those of its
bytes, whatever name, catalog and limits are, and the texts and omissions depend on the limit on
texts besides; under another catalog, everything is the same but the labels. -/
theorem settings_stay_out (data : Bytes) (name : String) (catalog : Catalog) (limits : Limits) :
    (ofBytes data name catalog limits = .error (.fileTooLarge data.size limits.fileSize) ↔
      limits.fileSize < data.size) ∧
    (∀ e, ofBytes data name catalog limits = .error (.image e) ↔
      data.size ≤ limits.fileSize ∧ Header.parse data = .error e) ∧
    ((∃ report, ofBytes data name catalog limits = .ok report) ↔
      data.size ≤ limits.fileSize ∧ ∃ header, Header.parse data = .ok header) ∧
    (∀ report, ofBytes data name catalog limits = .ok report →
      Header.parse data = .ok report.header ∧ report.facts = .of data report.header ∧
      StringPool.Accounts report.pool report.header.stringIds.count.toNat
        (StringPool.entry data report.header limits.stringUnits) ∧
      report.snapshot.strings.length + report.omitted.length =
        report.header.stringIds.count.toNat ∧
      report.snapshot.omitted = report.omitted.length ∧
      ∀ name' catalog' limits' report', ofBytes data name' catalog' limits' = .ok report' →
        report'.facts = report.facts ∧
        (limits'.stringUnits = limits.stringUnits → report'.pool = report.pool)) ∧
    ∀ catalog', (ofBytes data name catalog' limits).map unlabelled =
      (ofBytes data name catalog limits).map unlabelled := by
  refine ⟨ofBytes_eq_tooLarge_iff, fun _ => ofBytes_eq_noImage_iff, exists_report_iff,
    fun report made => ?_, fun catalog' => map_unlabelled_ofBytes data name catalog catalog' limits⟩
  obtain ⟨-, accepted, facts, pool, omitted⟩ := of_ofBytes made
  have acc := StringPool.accounts_ofEntries report.header.stringIds.count.toNat
    (StringPool.entry data report.header limits.stringUnits)
  rw [← StringPool.read, ← pool] at acc
  exact ⟨accepted, facts, acc, acc.total, omitted, fun _ _ _ _ => facts_eq_of_ofBytes made⟩

/-- On an image with a text that can be read and one that cannot, two reports under different
names, catalogs and limits on files state the same facts and list the same texts. -/
theorem settings_stay_out_of_short_image :
    ∃ report report',
      ofBytes StringPool.shortImage "a" {} ⟨118, 100⟩ = .ok report ∧
      ofBytes StringPool.shortImage "b" (({} : Catalog).addLiteral "a" "letter") ⟨200, 100⟩ =
        .ok report' ∧
      report'.facts = report.facts ∧ report'.pool = report.pool ∧
      report.snapshot.strings.length + report.omitted.length = 2 := by
  have accepted : Header.parse StringPool.shortImage = .ok StringPool.shortHeader := by
    decide +kernel
  have small : StringPool.shortImage.size ≤ 118 := by decide +kernel
  have made : ofBytes StringPool.shortImage "a" {} ⟨118, 100⟩ = .ok _ :=
    ofBytes_eq_iff_outcome.2 (.success small accepted)
  have made' : ofBytes StringPool.shortImage "b" (({} : Catalog).addLiteral "a" "letter")
      ⟨200, 100⟩ = .ok _ :=
    ofBytes_eq_iff_outcome.2 (.success (small.trans (by decide)) accepted)
  obtain ⟨-, -, -, success, -⟩ := settings_stay_out StringPool.shortImage "a" {} ⟨118, 100⟩
  obtain ⟨-, -, -, total, -, others⟩ := success _ made
  obtain ⟨facts, pool⟩ := others _ _ _ _ made'
  exact ⟨_, _, made, made', facts, pool rfl, total⟩

end DexTriage.Report
