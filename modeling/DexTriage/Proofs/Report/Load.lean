import Mathlib
import DexTriage.Proofs.Except
import DexTriage.Proofs.Files.Path
import DexTriage.Proofs.Report
import DexTriage.Proofs.Uleb128.Words
import DexTriage.Report.Load.Words

/-!
# A report on a file is one on its bytes

What comes of reading a node is one of six things (`Node.read_eq_iff`), and bytes come of it only if
they are all that the file has. So a file is reported on as its bytes are, or refused as they are
(`Report.ofPath_eq_ofBytes`). With sizes and limits in words nothing changes: the read that stops at
the greatest limit has left nothing out (`extract_advance`).
-/

namespace DexTriage

namespace Node

variable {path : String} {limit : Nat} {node : Node}

/-- What comes of reading a node. -/
inductive Reads (path : String) (limit : Nat) : Node → Except ReportError Bytes → Prop where
  | tooLarge {size content} :
    limit < size →
    Reads path limit (.file size content) (.error (.fileTooLarge size limit))
  /-- The file is larger than the system told, and only the first byte too many is read. -/
  | grown {size content} :
    size ≤ limit →
    limit < content.size →
    Reads path limit (.file size content) (.error (.fileTooLarge (limit + 1) limit))
  | whole {size content} :
    size ≤ limit →
    content.size ≤ limit →
    Reads path limit (.file size content) (.ok content)
  | largeDirectory {size entries} :
    limit < size →
    Reads path limit (.directory size entries) (.error (.fileTooLarge size limit))
  | directory {size entries} :
    size ≤ limit →
    Reads path limit (.directory size entries) (.error (.notReadable path .isDirectory))
  | unreadable {reason} :
    Reads path limit (.unreadable reason) (.error (.notReadable path (.other reason)))

/-- A file that is not too large is read as a whole. -/
lemma read_of_le {size content} (told : size ≤ limit) (small : content.size ≤ limit) :
    (Node.file size content).read path limit = .ok content := by
  have whole : content.extract 0 (limit + 1) = content :=
    Array.extract_eq_self_of_le (small.trans (Nat.le_succ limit))
  simp only [Node.read, whole, if_neg (not_lt.2 told), if_neg (not_lt.2 small)]

/-- What comes of reading a node is what reading it gives. -/
lemma Reads.read_eq {outcome} (reads : Reads path limit node outcome) :
    node.read path limit = outcome := by
  cases reads with
  | tooLarge large => rw [read, if_pos large]
  | @grown size content told large =>
    have input : (content.extract 0 (limit + 1)).size = limit + 1 :=
      Array.size_extract_of_le large
    simp only [read, input, if_neg (not_lt.2 told), if_pos (Nat.lt_succ_self limit)]
  | whole told small => exact read_of_le told small
  | largeDirectory large => rw [read, if_pos large]
  | directory told => rw [read, if_neg (not_lt.2 told)]
  | unreadable => rw [read]

/-- Something comes of reading a node. -/
lemma exists_reads (path : String) (limit : Nat) (node : Node) :
    ∃ outcome, Reads path limit node outcome := by
  cases node with
  | file size content =>
    rcases lt_or_ge limit size with large | told
    · exact ⟨_, .tooLarge large⟩
    · rcases lt_or_ge limit content.size with large | small
      · exact ⟨_, .grown told large⟩
      · exact ⟨_, .whole told small⟩
  | directory size entries =>
    rcases lt_or_ge limit size with large | told
    · exact ⟨_, .largeDirectory large⟩
    · exact ⟨_, .directory told⟩
  | unreadable reason => exact ⟨_, .unreadable⟩

/-- Reading a node gives what comes of it, and nothing else. -/
lemma read_eq_iff {outcome} : node.read path limit = outcome ↔ Reads path limit node outcome := by
  refine ⟨?_, Reads.read_eq⟩
  rintro rfl
  obtain ⟨outcome, reads⟩ := exists_reads path limit node
  rwa [reads.read_eq]

/-- The sizes of a node have no more than 64 bits. -/
def Fits : Node → Prop
  | file size content => size < UInt64.size ∧ content.size < UInt64.size
  | directory size _ => size < UInt64.size
  | unreadable _ => True

/-- The bytes that are read of a node have no larger size than it has. -/
lemma Fits.of_read {data : Bytes} (fits : node.Fits) (read : node.read path limit = .ok data) :
    data.size < UInt64.size := by
  cases read_eq_iff.1 read with
  | whole => exact fits.2

end Node

/-! ## Words -/

section Words

variable {size : Nat} {limit : UInt64}

/-- A size is refused in words as it is in numbers. -/
lemma checkSize_ofNat (fits : size < UInt64.size) :
    checkSize (UInt64.ofNat size) limit =
      if limit.toNat < size then .error (.fileTooLarge size limit.toNat) else .ok () := by
  have value : (UInt64.ofNat size).toNat = size := UInt64.toNat_ofNat_of_lt' fits
  rw [checkSize, value]
  exact if_congr (by rw [UInt64.lt_iff_toNat_lt, value]) rfl rfl

/-- A read in words leaves out only what is beyond the first byte too many: where there is no number
for that byte, there is no such byte. -/
lemma extract_advance {content : Bytes} (fits : content.size < UInt64.size) :
    content.extract 0 (Uleb128.advance limit 1).toNat = content.extract 0 (limit.toNat + 1) := by
  by_cases follows : limit.toNat + 1 < UInt64.size
  · rw [Uleb128.toNat_advance follows]
  · -- nothing is larger than the greatest limit, so that both reads end where the content does
    have greatest : (Uleb128.advance limit 1).toNat = UInt64.size - 1 := by
      rw [Uleb128.advance, if_neg follows]
      rfl
    rw [greatest, Array.extract_eq_self_of_le (by omega), Array.extract_eq_self_of_le (by omega)]

/-- A node is read in words as it is in numbers. -/
lemma Node.readWords_eq {path : String} {node : Node} (fits : node.Fits) :
    node.readWords path limit = node.read path limit.toNat := by
  cases node with
  | file size content =>
    obtain ⟨told, whole⟩ := fits
    have input : (content.extract 0 (limit.toNat + 1)).size < UInt64.size :=
      lt_of_le_of_lt (by simp) whole
    simp only [readWords, read, checkSize_ofNat told, extract_advance whole, checkSize_ofNat input]
    split
    · rfl
    · rw [ok_bind]
      split <;> rfl
  | directory size entries =>
    rw [readWords, read, checkSize_ofNat fits]
    split <;> rfl
  | unreadable reason => rfl

end Words

namespace Report

variable {files : Files} {path name : String} {catalog : Catalog} {limits : Limits}

/-- The report on what has been found is made from what is read of it. -/
lemma ofPath_of_found {node} (found : files path = .found node) :
    ofPath files path name catalog limits =
      node.read path limits.fileSize >>= fun data => ofBytes data name catalog limits := by
  rw [ofPath, found, ofLookup]

/-- A file is reported on as its bytes are, or refused as they are. -/
lemma ofPath_eq_ofBytes {data} (found : files path = .found (.file data.size data)) :
    ofPath files path name catalog limits = ofBytes data name catalog limits := by
  rw [ofPath_of_found found]
  rcases lt_or_ge limits.fileSize data.size with large | small
  · rw [(Node.Reads.tooLarge large).read_eq, error_bind, ofBytes_eq_tooLarge_iff.2 large]
  · rw [Node.read_of_le small small, ok_bind]

/-- A report is made from everything that a file has, whatever size the system told. -/
lemma of_ofPath {told content report} (found : files path = .found (.file told content))
    (made : ofPath files path name catalog limits = .ok report) :
    ofBytes content name catalog limits = .ok report := by
  rw [ofPath_of_found found] at made
  obtain ⟨data, read, made⟩ := bind_eq_ok_iff.1 made
  cases Node.read_eq_iff.1 read with
  | whole => exact made

/-- There is no report where nothing is found. -/
lemma ofPath_of_not_found (none : ∀ node, files path ≠ .found node) :
    ofPath files path name catalog limits = .error (.fileNotFound path) := by
  rw [ofPath]
  cases leads : files path with
  | absent => rfl
  | blocked reason => rfl
  | found node => exact absurd leads (none node)

/-- A report holds the bytes that it was made from. -/
lemma raw_of_ofBytes {data report} (made : ofBytes data name catalog limits = .ok report) :
    report.raw = data := by
  cases ofBytes_eq_iff_outcome.1 made with
  | success => rfl

/-- Bytes are reported on in words as they are in numbers. -/
lemma ofBytesWords_eq {data} (fits : data.size < UInt64.size) (limits : WordLimits) :
    ofBytesWords data name catalog limits = ofBytes data name catalog limits.toLimits := by
  rw [ofBytesWords, ofBytes, checkSize_ofNat fits, WordLimits.toLimits]
  split
  · rfl
  · rw [ok_bind]
    cases Image.parse data limits.stringUnits.toNat <;> rfl

/-- A file is reported on in words as it is in numbers. -/
lemma ofPathWords_eq (fits : ∀ node, files path = .found node → node.Fits) (limits : WordLimits) :
    ofPathWords files path name catalog limits =
      ofPath files path name catalog limits.toLimits := by
  rw [ofPathWords, ofPath]
  cases leads : files path with
  | absent => rfl
  | blocked reason => rfl
  | found node =>
    have small := fits node leads
    simp only [ofLookup, WordLimits.toLimits, Node.readWords_eq small]
    cases read : node.read path limits.fileSize.toNat with
    | error e => rfl
    | ok data => exact ofBytesWords_eq (small.of_read read) limits

/-- The name under which a file is reported is the last one of its path, if there is one. -/
lemma nameOfPath_eq_iff {file : String} :
    nameOfPath path = file ↔
      Path.HasFileName path file ∨ file = "" ∧ ∀ other, ¬ Path.HasFileName path other := by
  simp only [← Path.fileName?_eq_some_iff, nameOfPath]
  cases found : Path.fileName? path with
  | none => simp [eq_comm]
  | some last => simp

/-- Loading a file agrees with reporting on the bytes that it has, in the report as in the refusal.
If it has others than the system told, a report is still one on all of them. Where nothing is found,
the file is missing. A file that is loaded alone has the last name of its path, no signature is
looked for, and the standard limits apply. In words, loading and reporting are what they are in
numbers, up to the greatest limit. -/
theorem ofPath_agrees_with_ofBytes (files : Files) (path name : String) (catalog : Catalog) :
    (∀ data, files path = .found (.file data.size data) →
      (∀ limits, ofPath files path name catalog limits = ofBytes data name catalog limits) ∧
      (data.size < UInt64.size → ∀ limits,
        ofPathWords files path name catalog limits = ofBytesWords data name catalog limits)) ∧
    (∀ told content, files path = .found (.file told content) →
      ∀ limits report, ofPath files path name catalog limits = .ok report →
        report.raw = content ∧ ofBytes content name catalog limits = .ok report) ∧
    ((∀ node, files path ≠ .found node) →
      (∀ limits, ofPath files path name catalog limits = .error (.fileNotFound path)) ∧
      ofPathAlone files path = .error (.fileNotFound path)) ∧
    (∀ file, Path.HasFileName path file ∨ file = "" ∧ (∀ other, ¬ Path.HasFileName path other) →
      ofPathAlone files path = ofPath files path file {} ⟨134217728, 1048576⟩) ∧
    ∀ limits : WordLimits,
      (∀ data, data.size < UInt64.size →
        ofBytesWords data name catalog limits = ofBytes data name catalog limits.toLimits) ∧
      ((∀ node, files path = .found node → node.Fits) →
        ofPathWords files path name catalog limits =
          ofPath files path name catalog limits.toLimits) := by
  refine ⟨fun data found => ⟨fun limits => ofPath_eq_ofBytes found, fun fits limits => ?_⟩,
    fun told content found limits report made => ?_,
    fun none => ⟨fun limits => ofPath_of_not_found none, ofPath_of_not_found none⟩,
    fun file last => ?_, fun limits =>
      ⟨fun data fits => ofBytesWords_eq fits limits, fun fits => ofPathWords_eq fits limits⟩⟩
  · have node_fits : ∀ node, files path = .found node → node.Fits := by
      intro node found'
      obtain rfl := Lookup.found.inj (found.symm.trans found')
      exact ⟨fits, fits⟩
    rw [ofPathWords_eq node_fits, ofPath_eq_ofBytes found, ofBytesWords_eq fits]
  · have made := of_ofPath found made
    exact ⟨raw_of_ofBytes made, made⟩
  · rw [ofPathAlone, nameOfPath_eq_iff.2 last]
    rfl

/-- A directory with an image, once as it is and once larger than the system tells. -/
def imageDirectory : Node :=
  .directory 0
    [("d", .directory 0
      [("good.dex", .file StringPool.shortImage.size StringPool.shortImage),
        ("grown.dex", .file 0 StringPool.shortImage)])]

/-- The image in that directory is reported on under a limit of its own size and under the greatest
one, and refused under a limit of one byte less. Alone, it has its name; and another file is
missing. -/
theorem ofPath_agrees_with_ofBytes_in_directory :
    (∃ report,
      ofPath imageDirectory.lookup "d//good.dex" "x" {} ⟨118, 100⟩ = .ok report ∧
      ofBytes StringPool.shortImage "x" {} ⟨118, 100⟩ = .ok report ∧
      ofPathWords imageDirectory.lookup "d//good.dex" "x" {} ⟨18446744073709551615, 100⟩ =
        .ok report) ∧
    ofPath imageDirectory.lookup "d//good.dex" "x" {} ⟨117, 100⟩ = .error (.fileTooLarge 118 117) ∧
    (∃ report,
      ofPath imageDirectory.lookup "d/grown.dex" "x" {} ⟨118, 100⟩ = .ok report ∧
      report.raw = StringPool.shortImage) ∧
    ofPathAlone imageDirectory.lookup "d//good.dex" =
      ofPath imageDirectory.lookup "d//good.dex" "good.dex" {} ⟨134217728, 1048576⟩ ∧
    ofPathAlone imageDirectory.lookup "d/none.dex" = .error (.fileNotFound "d/none.dex") := by
  have accepted : Header.parse StringPool.shortImage = .ok StringPool.shortHeader := by
    decide +kernel
  have size : StringPool.shortImage.size = 118 := by decide +kernel
  have good : imageDirectory.lookup "d//good.dex" =
      .found (.file StringPool.shortImage.size StringPool.shortImage) := rfl
  have grown : imageDirectory.lookup "d/grown.dex" = .found (.file 0 StringPool.shortImage) := rfl
  have missing : imageDirectory.lookup "d/none.dex" = .absent := rfl
  obtain ⟨report, made⟩ : ∃ report, ∀ fileSize, 118 ≤ fileSize →
      ofBytes StringPool.shortImage "x" {} ⟨fileSize, 100⟩ = .ok report :=
    ⟨ofImage StringPool.shortImage "x" {} ⟨StringPool.shortHeader,
        StringPool.shortHeader.inconsistencies StringPool.shortImage,
        StringPool.read StringPool.shortImage StringPool.shortHeader 100⟩,
      fun _ fits => ofBytes_eq_iff_outcome.2 (.success (size.le.trans fits) accepted)⟩
  obtain ⟨agrees, -, -, alone, words⟩ :=
    ofPath_agrees_with_ofBytes imageDirectory.lookup "d//good.dex" "x" {}
  obtain ⟨-, whole, -⟩ := ofPath_agrees_with_ofBytes imageDirectory.lookup "d/grown.dex" "x" {}
  obtain ⟨-, -, absent, -⟩ := ofPath_agrees_with_ofBytes imageDirectory.lookup "d/none.dex" "x" {}
  obtain ⟨numbers, inWords⟩ := agrees _ good
  have fits : StringPool.shortImage.size < UInt64.size := size.trans_lt (by decide)
  have loaded : ofPath imageDirectory.lookup "d/grown.dex" "x" {} ⟨118, 100⟩ = .ok report := by
    rw [ofPath_of_found grown, Node.read_of_le (Nat.zero_le 118) size.le]
    exact made 118 le_rfl
  refine ⟨⟨report, ?_, made 118 le_rfl, ?_⟩, ?_, ⟨report, loaded, ?_⟩, alone _ (.inl ?_), ?_⟩
  · exact (numbers _).trans (made 118 le_rfl)
  · rw [inWords fits, (words _).1 _ fits]
    exact made _ (by decide)
  · rw [numbers, ← size]
    exact ofBytes_eq_tooLarge_iff.2 (by decide +kernel)
  · exact (whole _ _ grown _ _ loaded).1
  · exact Path.fileName?_eq_some_iff.1 (by decide +kernel)
  · refine (absent fun node found => ?_).2
    cases missing.symm.trans found

end Report

end DexTriage
