import Mathlib
import DexTriage.Proofs.Url.Complete
import DexTriage.Proofs.Url.Slice

/-!
# Scanning what has been found

`IsReported` says what an address looks like that the scanner reports. Cutting a stretch at
separators and trimming the pieces leaves nothing to cut or to trim (`of_mem_pieces`, `trim_trim`)
and never touches the scheme (`isQualified_trim`), so that the scanner finds a reported address
again, and nothing else in it (`ofText_of_isReported`).
-/

namespace DexTriage

namespace Url

/-- No separator of a text directly precedes a known scheme. -/
def Uncut (text : List Char) : Prop :=
  ∀ c after, c :: after <:+ text → isSeparator c = true → isQualified 0 after = false

/-- What a reported address looks like. -/
structure IsReported (url : List Char) : Prop where
  /-- It starts with a known scheme and does not end behind the mark of that. -/
  qualified : isQualified 1 url = true
  /-- There is no white space, quote or angle bracket in it. -/
  parts : ∀ c ∈ url, isUrlChar c = true
  uncut : Uncut url
  trimmed : trim url = url
  unmarked : schemeMark.toList.isSuffixOf url = false

/-- A text starts with a known scheme if a part of it does from the start on. -/
lemma isQualified_of_prefix {more} {start text : List Char} (before : start <+: text)
    (qualified : isQualified more start = true) : isQualified more text = true := by
  obtain ⟨scheme, known, starts, le⟩ := isQualified_iff.1 qualified
  exact isQualified_iff.2 ⟨scheme, known, starts.trans (before.map _), le.trans before.length_le⟩

/-- A text that goes on for some characters starts with a known scheme. -/
lemma isQualified_zero {more text} (qualified : isQualified more text = true) :
    isQualified 0 text = true := by
  obtain ⟨scheme, known, starts, le⟩ := isQualified_iff.1 qualified
  exact isQualified_iff.2 ⟨scheme, known, starts, by omega⟩

/-- A text starts with a known scheme if it is that scheme and something more. -/
lemma isQualified_zero_iff {text} : isQualified 0 text = true ↔
    ∃ scheme ∈ schemes, ∃ start rest, text = start ++ rest ∧
      start.map Unicode.foldAscii = marked scheme := by
  rw [isQualified_iff]
  constructor
  · rintro ⟨scheme, known, starts, -⟩
    refine ⟨scheme, known, text.take (marked scheme).length, text.drop (marked scheme).length,
      (List.take_append_drop _ _).symm, ?_⟩
    rw [List.map_take, ← List.prefix_iff_eq_take.1 starts]
  · rintro ⟨scheme, known, start, rest, rfl, fold⟩
    refine ⟨scheme, known, ?_, ?_⟩
    · rw [List.map_append, fold]
      exact List.prefix_append _ _
    · rw [← fold, List.length_map, List.length_append]
      exact Nat.le_add_right _ _

/-- There is more behind a scheme than its mark, if the mark does not end the text. -/
lemma isQualified_one {text} (qualified : isQualified 0 text = true)
    (unmarked : schemeMark.toList.isSuffixOf text = false) : isQualified 1 text = true := by
  obtain ⟨scheme, known, start, rest, rfl, fold⟩ := isQualified_zero_iff.1 qualified
  refine isQualified_iff.2 ⟨scheme, known, ?_, ?_⟩
  · rw [List.map_append, fold]
    exact List.prefix_append _ _
  · cases rest with
    | nil =>
      have bare : isBare start = true :=
        List.any_eq_true.2 ⟨scheme, known, beq_iff_eq.2 fold⟩
      rw [List.append_nil, isSuffixOf_of_isBare bare] at unmarked
      cases unmarked
    | cons c rest =>
      rw [← fold, List.length_map, List.length_append, List.length_cons]
      omega

/-- A stretch is part of the text, and starts with an address. -/
lemma of_mem_stretches {inWord text stretch} (mem : stretch ∈ stretches inWord text) :
    stretch <:+: text ∧ isQualified 1 stretch = true ∧ ∀ c ∈ stretch, isUrlChar c = true := by
  fun_induction stretches inWord text with
  | case1 => cases mem
  | case2 inWord c text starts ih =>
    obtain rfl | mem := List.mem_cons.1 mem
    · obtain ⟨-, opens⟩ := Bool.and_eq_true_iff.1 starts
      have part : isUrlChar c = true := by
        by_contra other
        rw [startsWithUrl_of_not_isUrlChar (Bool.not_eq_true _ ▸ other)] at opens
        cases opens
      rw [← List.takeWhile_cons_of_pos part]
      refine ⟨(List.takeWhile_prefix _).isInfix, ?_, fun c => List.mem_takeWhile_imp⟩
      rwa [← startsWithUrl_eq]
    · obtain ⟨within, rest⟩ := ih mem
      have behind := (List.dropWhile_suffix isUrlChar (l := text)).trans (List.suffix_cons c text)
      exact ⟨within.trans behind.isInfix, rest⟩
  | case3 inWord c text _ ih =>
    obtain ⟨within, rest⟩ := ih mem
    exact ⟨within.trans (List.suffix_cons c text).isInfix, rest⟩

/-- The first piece of a text that starts with a known scheme does so itself. -/
lemma isQualified_head {text piece others} (eq : pieces text = piece :: others)
    (qualified : isQualified 0 text = true) : isQualified 0 piece = true := by
  obtain ⟨scheme, known, start, rest, rfl, fold⟩ := isQualified_zero_iff.1 qualified
  have within (c) (mem : c ∈ start) : isSeparator c = false := by
    apply isSeparator_of_foldAscii_mem known
    rw [← fold]
    exact List.mem_map_of_mem mem
  obtain ⟨head, others', eq'⟩ := List.exists_cons_of_ne_nil (pieces_ne_nil rest)
  rw [pieces_append within, eq', List.modifyHead_cons] at eq
  obtain ⟨rfl, -⟩ := List.cons.inj eq
  exact isQualified_zero_iff.2 ⟨scheme, known, start, head, rfl, fold⟩

/-- The first piece is a start of the text. All others are parts of it that start with a known
scheme, and there is nothing left to cut in any of them. -/
lemma exists_pieces (text) : ∃ head others, pieces text = head :: others ∧ head <+: text ∧
    Uncut head ∧ ∀ piece ∈ others, piece <:+: text ∧ isQualified 0 piece = true ∧ Uncut piece := by
  induction text with
  | nil =>
    refine ⟨[], [], rfl, List.nil_prefix, fun c after suffix => ?_, by simp⟩
    cases List.suffix_nil.1 suffix
  | cons c text ih =>
    obtain ⟨head, others, eq, start, uncut, later⟩ := ih
    have behind := (List.suffix_cons c text).isInfix
    by_cases joins : (isSeparator c && startsWithScheme text) = true
    · have qualified : isQualified 0 text = true := by
        rw [← startsWithScheme_eq]
        exact (Bool.and_eq_true_iff.1 joins).2
      refine ⟨[], head :: others, by rw [pieces, if_pos joins, eq], List.nil_prefix, ?_, ?_⟩
      · intro c after suffix
        cases List.suffix_nil.1 suffix
      · intro piece mem
        obtain rfl | mem := List.mem_cons.1 mem
        · exact ⟨start.isInfix.trans behind, isQualified_head eq qualified, uncut⟩
        · obtain ⟨within, rest⟩ := later piece mem
          exact ⟨within.trans behind, rest⟩
    · refine ⟨c :: head, others, ?_, List.cons_prefix_cons.2 ⟨rfl, start⟩, ?_, ?_⟩
      · rw [pieces_cons (Bool.eq_false_iff.2 joins), eq]
        rfl
      · intro d after suffix separator
        obtain same | suffix := List.suffix_cons_iff.1 suffix
        · obtain ⟨rfl, rfl⟩ := List.cons.inj same
          by_contra qualified
          rw [Bool.not_eq_false] at qualified
          apply joins
          rw [separator, startsWithScheme_eq, isQualified_of_prefix start qualified]
          rfl
        · exact uncut d after suffix separator
      · intro piece mem
        obtain ⟨within, rest⟩ := later piece mem
        exact ⟨within.trans behind, rest⟩

/-- The pieces of a text that starts with a known scheme are parts of it that start with one, and
there is nothing left to cut in any of them. -/
lemma of_mem_pieces {text piece} (qualified : isQualified 0 text = true)
    (mem : piece ∈ pieces text) :
    piece <:+: text ∧ isQualified 0 piece = true ∧ Uncut piece := by
  obtain ⟨head, others, eq, start, uncut, later⟩ := exists_pieces text
  rw [eq] at mem
  obtain rfl | mem := List.mem_cons.1 mem
  · exact ⟨start.isInfix, isQualified_head eq qualified, uncut⟩
  · exact later piece mem

/-- Nothing is left to cut when the end of a text is cut off. -/
lemma Uncut.of_prefix {start text : List Char} (uncut : Uncut text) (before : start <+: text) :
    Uncut start := by
  obtain ⟨rest, rfl⟩ := before
  rintro c after ⟨front, rfl⟩ separator
  by_contra qualified
  rw [Bool.not_eq_false] at qualified
  have longer := isQualified_of_prefix (List.prefix_append after rest) qualified
  rw [uncut c (after ++ rest) ⟨front, by simp⟩ separator] at longer
  cases longer

/-- Trimming never touches the scheme. -/
lemma isQualified_trim {text} (qualified : isQualified 0 text = true) :
    isQualified 0 (trim text) = true := by
  obtain ⟨scheme, known, start, rest, rfl, fold⟩ := isQualified_zero_iff.1 qualified
  have mark : ∀ scheme ∈ schemes, (marked scheme).getLast? = some '/' := by
    decide +kernel
  have ends : start.getLast? = some '/' := by
    have last := mark scheme known
    rw [← fold, List.getLast?_map, Option.map_eq_some_iff] at last
    obtain ⟨c, eq, slash⟩ := last
    rw [eq, Unicode.eq_of_foldAscii_eq slash rfl]
  have starts : isQualified 0 start = true :=
    isQualified_zero_iff.2 ⟨scheme, known, start, [], (List.append_nil _).symm, fold⟩
  exact isQualified_of_prefix (prefix_trim rest ends rfl) starts

/-- What is found in a text is a part of it that looks like a reported address. -/
lemma isReported_of_mem {text url : String} (mem : url ∈ ofText text) :
    url.toList <:+: text.toList ∧ IsReported url.toList := by
  obtain ⟨stretch, mem_stretch, mem⟩ := List.mem_flatMap.1 mem
  obtain ⟨trimmed, mem, found⟩ := List.mem_filterMap.1 mem
  obtain ⟨piece, mem_piece, rfl⟩ := List.mem_map.1 mem
  cases unmarked : schemeMark.toList.isSuffixOf (trim piece) with
  | true => cases (if_pos unmarked).symm.trans found
  | false =>
    have same : String.ofList (trim piece) = url := by
      rw [unmarked] at found
      exact Option.some.inj found
    obtain ⟨within, starts, parts⟩ := of_mem_stretches mem_stretch
    obtain ⟨within', qualified, uncut⟩ := of_mem_pieces (isQualified_zero starts) mem_piece
    have start := trim_prefix piece
    rw [← same, String.toList_ofList]
    refine ⟨(start.isInfix.trans within').trans within, ?_⟩
    exact {
      qualified := isQualified_one (isQualified_trim qualified) unmarked
      parts := fun c mem => parts c ((start.isInfix.trans within').subset mem)
      uncut := uncut.of_prefix start
      trimmed := trim_trim piece
      unmarked := unmarked }

/-- A text in which there is nothing to cut is a single piece. -/
lemma pieces_of_uncut {text} (uncut : Uncut text) : pieces text = [text] := by
  induction text with
  | nil => rfl
  | cons c text ih =>
    have within : (isSeparator c && startsWithScheme text) = false := by
      cases separator : isSeparator c with
      | false => rfl
      | true => rw [startsWithScheme_eq, uncut c text List.suffix_rfl separator, Bool.and_false]
    have one := ih fun d after suffix => uncut d after (suffix.trans (List.suffix_cons c text))
    rw [pieces_cons within, one]
    rfl

/-- A text that starts with an address and consists of nothing but parts of one is a single
stretch. -/
lemma stretches_of_parts {text} (qualified : isQualified 1 text = true)
    (parts : ∀ c ∈ text, isUrlChar c = true) : stretches false text = [text] := by
  cases text with
  | nil => cases qualified
  | cons c text =>
    have starts : startsWithUrl (c :: text) = true := by
      rwa [startsWithUrl_eq, List.takeWhile_eq_self_iff.2 parts]
    have parts' : ∀ x ∈ text, isUrlChar x = true := fun x mem =>
      parts x (List.mem_cons_of_mem _ mem)
    rw [stretches, starts, Bool.not_false, Bool.true_and, if_pos rfl,
      List.takeWhile_eq_self_iff.2 parts', List.dropWhile_eq_nil_iff.2 parts', stretches]

/-- In a reported address the scanner finds just that. -/
lemma ofText_of_isReported {url : String} (reported : IsReported url.toList) :
    ofText url = [url] := by
  rw [ofText, stretches_of_parts reported.qualified reported.parts, List.flatMap_singleton,
    pieces_of_uncut reported.uncut, List.map_singleton, reported.trimmed, List.filterMap_cons,
    reported.unmarked, if_neg Bool.false_ne_true, String.ofList_toList]
  rfl

/-- Scanning by offsets never fails, and finds what the scanner finds. Everything that is found is a
part of one of the texts, in which there is nothing to cut or to trim, and is found once; a text that
looks like this is always found. Scanning what has been found finds the same again. -/
theorem find_find (texts : List String) :
    findBySlices? texts = some (find texts) ∧
    (∀ url ∈ find texts,
      (∃ text ∈ texts, url.toList <:+: text.toList) ∧ IsReported url.toList) ∧
    (∀ url ∈ texts, IsReported url.toList → url ∈ find texts) ∧
    (find texts).Nodup ∧
    find (find texts) = find texts := by
  have reported : ∀ url ∈ find texts,
      (∃ text ∈ texts, url.toList <:+: text.toList) ∧ IsReported url.toList := by
    intro url mem
    obtain ⟨text, mem_text, mem⟩ := List.mem_flatMap.1 (List.mem_eraseDups.1 mem)
    obtain ⟨within, reported⟩ := isReported_of_mem mem
    exact ⟨⟨text, mem_text, within⟩, reported⟩
  have once : (find texts).Nodup := nodup_eraseDups _
  refine ⟨findBySlices?_eq texts, reported, fun url mem looks => ?_, once, ?_⟩
  · refine List.mem_eraseDups.2 (List.mem_flatMap.2 ⟨url, mem, ?_⟩)
    rw [ofText_of_isReported looks]
    exact List.mem_singleton_self url
  · have same : (find texts).flatMap ofText = find texts := by
      rw [List.flatMap_congr fun url mem => ofText_of_isReported (reported url mem).2]
      exact List.flatMap_singleton' _
    conv_lhs => rw [find, same, eraseDups_of_nodup once]

/-- Two joined addresses, the first with a letter of two bytes, are taken apart. -/
theorem find_find_joined :
    let found := ["http://ä.b", "HTTPS://c.d"]
    findBySlices? ["(http://ä.b,HTTPS://c.d)."] = some found ∧
      IsReported "HTTPS://c.d".toList ∧ find found = found := by
  have found : find ["(http://ä.b,HTTPS://c.d)."] = ["http://ä.b", "HTTPS://c.d"] := by
    decide +kernel
  obtain ⟨sliced, reported, -, -, again⟩ := find_find ["(http://ä.b,HTTPS://c.d)."]
  rw [found] at sliced reported again
  exact ⟨sliced, (reported "HTTPS://c.d" (by simp)).2, again⟩

end Url

end DexTriage
