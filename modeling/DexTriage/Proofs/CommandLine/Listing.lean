import Mathlib
import DexTriage.Proofs.CommandLine
import DexTriage.Proofs.Text.Listed

/-!
# One line for each text

Lines without line breaks come back when what is printed of them is cut at its line breaks
(`splitOnP_unlines`). A listed text has none (`Text.isShown_listed`), and neither has the line on an
omission, whatever it is omitted for (`ImageError.isShown_message`). So a listing has one line for
each text and one for each omission, and says everything about the texts (`listing_lines`).
-/

namespace DexTriage

open Text Unicode

/-- The words for a fault can be shown. -/
lemma EncodingFault.isShown_message (fault : EncodingFault) : IsShown fault.message := by
  cases fault <;> exact isShown_of_all (by decide)

/-- The two digits of a byte can be shown. -/
lemma Hex.isShown_ofByte (byte : UInt8) : IsShown (String.ofList (ofByte byte)) := by
  have less := byte.toNat_lt
  intro c mem
  rw [String.toList_ofList, ofByte, List.mem_cons, List.mem_singleton] at mem
  obtain rfl | rfl := mem
  · exact isPrintable_digitChar (by omega)
  · exact isPrintable_digitChar (by omega)

/-- Texts with another one between them can be shown if all of them can be shown. -/
lemma Text.isShown_intercalate {between : String} {texts : List String}
    (isShown : IsShown between) (areShown : ∀ text ∈ texts, IsShown text) :
    IsShown (between.intercalate texts) := by
  induction texts with
  | nil => exact isShown_of_all rfl
  | cons text texts ih =>
    obtain ⟨first, areShown⟩ := List.forall_mem_cons.1 areShown
    cases texts with
    | nil => rwa [String.intercalate_singleton]
    | cons =>
      rw [String.intercalate_cons_cons]
      exact (first.append isShown).append (ih areShown)

/-- A list of bytes can be shown. -/
lemma Hex.isShown_listing (bytes : List UInt8) : IsShown (listing bytes) := by
  refine (IsShown.append (isShown_of_all (by decide)) ?_).append (isShown_of_all (by decide))
  refine isShown_intercalate (isShown_of_all (by decide)) fun text mem => ?_
  obtain ⟨byte, -, rfl⟩ := List.mem_map.1 mem
  exact isShown_ofByte byte

/-- The words for an error can be shown. -/
lemma ImageError.isShown_message (error : ImageError) : IsShown error.message := by
  have number (n : Nat) : IsShown (toString n) := isShown_toDigits (by decide) (by decide) n
  have hex (n : Nat) : IsShown (Hex.ofNat n) := isShown_toDigits (by decide) (by decide) n
  cases error with
  | invalidMagic magic => exact (isShown_of_all (by decide)).append (Hex.isShown_listing magic)
  | headerTruncated got expected =>
    exact (((isShown_of_all (by decide)).append (number got)).append
      (isShown_of_all (by decide))).append (number expected)
  | offsetOutOfRange offset width size =>
    exact (((((isShown_of_all (by decide)).append (number width)).append
      (isShown_of_all (by decide))).append (hex offset)).append
        (isShown_of_all (by decide))).append (hex size)
  | malformedVarint offset => exact (isShown_of_all (by decide)).append (hex offset)
  | invalidEncoding position fault =>
    exact (((isShown_of_all (by decide)).append (number position)).append
      (isShown_of_all (by decide))).append fault.isShown_message
  | stringTooLong declared limit =>
    exact (((isShown_of_all (by decide)).append (number declared)).append
      (isShown_of_all (by decide))).append (number limit)

namespace CommandLine

/-- Lines without line breaks are what a text that is printed of them is cut into. -/
lemma splitOnP_unlines {lines : List String} (shown : ∀ line ∈ lines, IsShown line) :
    (unlines lines).toList.splitOnP isLineBreak = lines.map String.toList ++ [[]] := by
  induction lines with
  | nil => rfl
  | cons line lines ih =>
    obtain ⟨first, others⟩ := List.forall_mem_cons.1 shown
    have chars : (unlines (line :: lines)).toList = line.toList ++ '\n' :: (unlines lines).toList := by
      rw [unlines, List.map_cons, String.join_cons, String.toList_append, String.toList_append,
        List.append_assoc]
      rfl
    have unbroken : ∀ c ∈ line.toList, isLineBreak c = false :=
      fun c mem => isLineBreak_of_isPrintable (first c mem)
    rw [chars, List.splitOnP_append_cons_of_forall_mem unbroken '\n' (by decide), ih others]
    rfl

/-- The line on an omission can be shown. -/
lemma isShown_omissionLine (omission : Omission) : IsShown (omissionLine omission) := by
  have number : IsShown (toString omission.index) := isShown_toDigits (by decide) (by decide) _
  exact (((isShown_of_all (by decide)).append number).append (isShown_of_all (by decide))).append
    omission.error.isShown_message

/-- A path leads to an image, and the file is not too large. -/
structure LeadsTo (files : Files) (path : String) (limits : Limits) (data : Bytes) (image : Image) :
    Prop where
  found : ∃ size ≤ limits.fileSize, files path = .found (.file size data)
  small : data.size ≤ limits.fileSize
  parsed : Image.parse data limits.stringUnits = .ok image

variable {files : Files} {path : String} {limits : Limits} {data : Bytes} {image : Image}

/-- A listing has a line for each text, and one for each omission. -/
lemma LeadsTo.answer_eq (leads : LeadsTo files path limits data image) :
    answer files (.listing path limits) =
      { stdout := unlines (image.pool.strings.map listed)
        stderr := unlines (image.pool.omitted.map omissionLine) } := by
  obtain ⟨size, told, found⟩ := leads.found
  have made : Report.ofPath files path (Report.nameOfPath path) {} limits =
      .ok (Report.ofImage data (Report.nameOfPath path) {} image) := by
    rw [Report.ofPath, found, Report.ofLookup, Node.read_of_le told leads.small, ok_bind,
      Report.ofBytes, if_neg (not_lt.2 leads.small), leads.parsed]
  rw [answer, listing, made]
  rfl

/-- The pool of an image accounts for its string ids. -/
lemma LeadsTo.accounts (leads : LeadsTo files path limits data image) :
    StringPool.Accounts image.pool image.header.stringIds.count.toNat
      (StringPool.entry data image.header limits.stringUnits) := by
  obtain ⟨header, -, rfl⟩ := Image.parse_eq_ok_iff.1 leads.parsed
  exact StringPool.accounts_ofEntries _ _

/-- What is cut at its line breaks are the listed texts. -/
lemma LeadsTo.splitOnP_stdout (leads : LeadsTo files path limits data image) :
    (answer files (.listing path limits)).stdout.toList.splitOnP isLineBreak =
      (image.pool.strings.map listed).map String.toList ++ [[]] := by
  rw [leads.answer_eq]
  refine splitOnP_unlines fun line mem => ?_
  obtain ⟨text, -, rfl⟩ := List.mem_map.1 mem
  exact isShown_listed text

/-- What is cut at its line breaks are the lines on omissions. -/
lemma LeadsTo.splitOnP_stderr (leads : LeadsTo files path limits data image) :
    (answer files (.listing path limits)).stderr.toList.splitOnP isLineBreak =
      (image.pool.omitted.map omissionLine).map String.toList ++ [[]] := by
  rw [leads.answer_eq]
  refine splitOnP_unlines fun line mem => ?_
  obtain ⟨omission, -, rfl⟩ := List.mem_map.1 mem
  exact isShown_omissionLine omission

/-- Lists of texts that are listed alike are the same. -/
lemma LeadsTo.stdout_eq_iff {files' path' limits' data' image'}
    (leads : LeadsTo files path limits data image)
    (leads' : LeadsTo files' path' limits' data' image') :
    (answer files (.listing path limits)).stdout = (answer files' (.listing path' limits')).stdout ↔
      image.pool.strings = image'.pool.strings := by
  constructor
  · intro same
    have lines := leads.splitOnP_stdout
    rw [same, leads'.splitOnP_stdout] at lines
    have chars := List.map_injective_iff.2 (fun _ _ => String.toList_inj.1)
      (List.append_cancel_right lines)
    exact (List.map_injective_iff.2 listed_injective chars).symm
  · intro same
    rw [leads.answer_eq, leads'.answer_eq, same]

/-- A listing has one line for each text of the image, in the order of their ids, and among the errors
one line for each id that has none, in increasing order, however it is cut at line breaks of any kind:
a text is listed without any of them, and so that it can be read back. So two listings are the same
exactly if their images have the same texts. -/
theorem listing_lines (leads : LeadsTo files path limits data image) :
    (answer files (.listing path limits)).code = 0 ∧
    (answer files (.listing path limits)).stdout = unlines (image.pool.strings.map listed) ∧
    (answer files (.listing path limits)).stdout.toList.splitOnP isLineBreak =
      (image.pool.strings.map listed).map String.toList ++ [[]] ∧
    (answer files (.listing path limits)).stderr = unlines (image.pool.omitted.map omissionLine) ∧
    (answer files (.listing path limits)).stderr.toList.splitOnP isLineBreak =
      (image.pool.omitted.map omissionLine).map String.toList ++ [[]] ∧
    StringPool.Accounts image.pool image.header.stringIds.count.toNat
      (StringPool.entry data image.header limits.stringUnits) ∧
    (∀ text, unlisted? (listed text) = some text ∧
      ∀ c ∈ (listed text).toList, isPrintable c = true ∧ isLineBreak c = false) ∧
    ∀ files' path' limits' data' image', LeadsTo files' path' limits' data' image' →
      ((answer files (.listing path limits)).stdout =
          (answer files' (.listing path' limits')).stdout ↔
        image.pool.strings = image'.pool.strings) := by
  refine ⟨?_, ?_, leads.splitOnP_stdout, ?_, leads.splitOnP_stderr, leads.accounts,
    fun text => ⟨unlisted?_listed text, fun c mem => ?_⟩,
    fun files' path' limits' data' image' leads' => leads.stdout_eq_iff leads'⟩
  · rw [leads.answer_eq]
  · rw [leads.answer_eq]
  · rw [leads.answer_eq]
  · have shown := isShown_listed text c mem
    exact ⟨shown, isLineBreak_of_isPrintable shown⟩

/-- An image of which the first text is a line feed and a backslash, and the second one is too
long. -/
def lineFeedImage : Bytes :=
  (StringPool.shortImage.toList.take 0x74 ++ [2, 0x0A, 0x5C]).toArray

/-- A line feed in a text does not begin a new line, and a backslash is told from one that names a
line feed. -/
theorem listing_lines_of_lineFeed :
    ∃ image, LeadsTo (fun _ => .found (.file 119 lineFeedImage)) "a.dex" ⟨200, 100⟩ lineFeedImage
        image ∧
      (answer (fun _ => .found (.file 119 lineFeedImage)) (.listing "a.dex" ⟨200, 100⟩)).stdout =
        "\\n\\\\\n" ∧
      (answer (fun _ => .found (.file 119 lineFeedImage)) (.listing "a.dex" ⟨200, 100⟩)).stderr =
        "omitted: string #1: string declares 116 code units, limit is 100\n" := by
  have accepted : Header.parse lineFeedImage = .ok StringPool.shortHeader := by decide +kernel
  have leads : LeadsTo (fun _ => .found (.file 119 lineFeedImage)) "a.dex" ⟨200, 100⟩ lineFeedImage
      _ :=
    ⟨⟨119, by decide, rfl⟩, by decide +kernel, Image.parse_eq_ok_iff.2 ⟨_, accepted, rfl⟩⟩
  obtain ⟨-, stdout, -, stderr, -⟩ := listing_lines leads
  have texts : (StringPool.read lineFeedImage StringPool.shortHeader 100).strings = ["\n\\"] := by
    decide +kernel
  have omitted : (StringPool.read lineFeedImage StringPool.shortHeader 100).omitted =
      [⟨1, .stringTooLong 116 100⟩] := by
    decide +kernel
  refine ⟨_, leads, stdout.trans ?_, stderr.trans ?_⟩
  · rw [texts]
    decide +kernel
  · rw [omitted]
    decide +kernel

end CommandLine

end DexTriage
