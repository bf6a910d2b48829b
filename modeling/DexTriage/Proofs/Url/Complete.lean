import Mathlib
import DexTriage.Proofs.FirstSight
import DexTriage.Proofs.Url.Scheme

/-!
# Completeness of the scanner

The scanner goes through a text once, from left to right. `candidates` says without scanning what
it is to find: from every run of characters that can be part of an address, what follows the first
place where one opens, cut and trimmed. The scanner takes the same stretches (`stretches_eq`) apart
at the same separators (`pieces_eq`), but reports none of the addresses that end with the mark of a
scheme: `find_eq_filter_addresses` says which of those that are more than a scheme are lost.
-/

namespace DexTriage

namespace Url

/-- The longest runs of characters that can be part of an address, some of them empty. -/
def runs (text : List Char) : List (List Char) :=
  text.splitOnP fun c => !isUrlChar c

/-- Whether an address opens behind the first `k` characters of a run: a known scheme and something
behind it that do not go on with a word. What comes before a run is never part of a word. -/
def opensAt (run : List Char) (k : Nat) : Bool :=
  isQualified 1 (run.drop k) && !(run.take k).getLast?.any Unicode.isWord

/-- The rest of a run from the first place on where an address opens. -/
def firstUrl? (run : List Char) : Option (List Char) :=
  ((List.range run.length).find? (opensAt run)).map run.drop

/-- Whether a character joins what is before it and the address that follows. -/
def joins (place : Char × List Char) : Bool :=
  isSeparator place.1 && isQualified 0 place.2

/-- The parts of a stretch between the separators that directly precede a known scheme. -/
def cuts (stretch : List Char) : List (List Char) :=
  ((stretch.zip stretch.tails.tail).splitOnP joins).map (·.map Prod.fst)

/-- Everything in a text that looks like an address, bare schemes included. -/
def candidates (text : String) : List (List Char) :=
  ((runs text.toList).filterMap firstUrl?).flatMap fun stretch => (cuts stretch).map trim

/-- Whether there is nothing behind the scheme of an address. -/
def isBare (url : List Char) : Bool :=
  schemes.any fun scheme => url.map Unicode.foldAscii == marked scheme

/-- The addresses that there are within any of the texts, each where it is first seen. -/
def addresses (texts : List String) : List String :=
  (((texts.flatMap candidates).filter fun url => !isBare url).map String.ofList).eraseDups

/-- No address starts with what cannot be part of one. -/
lemma startsWithUrl_of_not_isUrlChar {c} {text : List Char} (other : isUrlChar c = false) :
    startsWithUrl (c :: text) = false := by
  have run : (c :: text).takeWhile isUrlChar = [] :=
    List.takeWhile_cons_of_neg (by rw [other]; exact Bool.false_ne_true)
  rw [startsWithUrl_eq, run]
  rfl

/-- The scanner takes no notice of what cannot be part of an address. -/
lemma stretches_cons_of_not_isUrlChar {c} (inWord text) (other : isUrlChar c = false) :
    stretches inWord (c :: text) = stretches false text := by
  rw [stretches, startsWithUrl_of_not_isUrlChar other, Bool.and_false, if_neg Bool.false_ne_true,
    isWord_of_not_isUrlChar other]

/-- The first place where an address opens. -/
lemma firstUrl?_of_opensAt {before after : List Char} (some_after : after ≠ [])
    (opens : opensAt (before ++ after) before.length = true)
    (first : ∀ k < before.length, opensAt (before ++ after) k = false) :
    firstUrl? (before ++ after) = some after := by
  have inside := List.length_pos_iff.2 some_after
  have found : (List.range (before ++ after).length).find? (opensAt (before ++ after)) =
      some before.length := by
    rw [List.find?_range_eq_some]
    refine ⟨opens, ?_, fun k lt => ?_⟩
    · rw [List.mem_range, List.length_append]
      omega
    · rw [first k lt]
      rfl
  rw [firstUrl?, found, Option.map_some, List.drop_left]

/-- There may be no such place. -/
lemma firstUrl?_of_not_opensAt {run} (closed : ∀ k < run.length, opensAt run k = false) :
    firstUrl? run = none := by
  rw [firstUrl?, Option.map_eq_none_iff, List.find?_eq_none]
  intro k mem
  rw [closed k (List.mem_range.1 mem)]
  exact Bool.false_ne_true

/-- Behind a run the scanner takes no notice of the character that ends it. -/
lemma stretches_of_ended {rest} (inWord) (ended : ∀ c ∈ rest.head?, isUrlChar c = false) :
    stretches inWord rest = stretches false (rest.drop 1) := by
  cases rest with
  | nil => rw [stretches, List.drop_nil, stretches]
  | cons c rest => exact stretches_cons_of_not_isUrlChar inWord rest (ended c rfl)

/-- Within a run the scanner takes what follows the first place where an address opens, and goes
on behind the run. -/
lemma stretches_append (before : List Char) {after rest : List Char}
    (parts : ∀ c ∈ after, isUrlChar c = true) (ended : ∀ c ∈ rest.head?, isUrlChar c = false)
    (first : ∀ k < before.length, opensAt (before ++ after) k = false) :
    stretches (before.getLast?.any Unicode.isWord) (after ++ rest) =
      (firstUrl? (before ++ after)).toList ++ stretches false (rest.drop 1) := by
  have stopped : rest.takeWhile isUrlChar = [] ∧ rest.dropWhile isUrlChar = rest := by
    cases rest with
    | nil => exact ⟨rfl, rfl⟩
    | cons c rest => simp [ended c rfl]
  -- on what is left of the run, where no address opens before what is left
  induction after generalizing before with
  | nil =>
    rw [List.append_nil] at first ⊢
    rw [firstUrl?_of_not_opensAt first, List.nil_append, stretches_of_ended _ ended]
    rfl
  | cons c after ih =>
    have parts' : ∀ x ∈ after, isUrlChar x = true := fun x mem =>
      parts x (List.mem_cons_of_mem _ mem)
    have run : (c :: (after ++ rest)).takeWhile isUrlChar = c :: after := by
      rw [← List.cons_append, List.takeWhile_append_of_pos parts, stopped.1, List.append_nil]
    have taken : (after ++ rest).takeWhile isUrlChar = after := by
      rw [List.takeWhile_append_of_pos parts', stopped.1, List.append_nil]
    have left : (after ++ rest).dropWhile isUrlChar = rest := by
      rw [List.dropWhile_append_of_pos parts', stopped.2]
    have place : opensAt (before ++ c :: after) before.length =
        (!before.getLast?.any Unicode.isWord && startsWithUrl (c :: (after ++ rest))) := by
      rw [opensAt, List.drop_left, List.take_left, startsWithUrl_eq, run, Bool.and_comm]
    rw [List.cons_append, stretches, ← place]
    by_cases opens : opensAt (before ++ c :: after) before.length = true
    · rw [if_pos opens, taken, left, firstUrl?_of_opensAt (List.cons_ne_nil _ _) opens first,
        stretches_of_ended _ ended]
      rfl
    · have later := ih (before ++ [c]) parts' (by
        intro k lt
        rw [List.length_append, List.length_singleton] at lt
        rw [List.append_assoc, List.singleton_append]
        obtain lt | rfl : k < before.length ∨ k = before.length := by omega
        · exact first k lt
        · exact Bool.not_eq_true _ ▸ opens)
      rw [List.getLast?_concat, Option.any_some, List.append_assoc, List.singleton_append] at later
      rw [if_neg opens, later]

/-- The scanner takes one stretch from every run in which an address opens. -/
lemma stretches_eq (text) : stretches false text = (runs text).filterMap firstUrl? := by
  induction length : text.length using Nat.strong_induction_on generalizing text with
  | _ n ih =>
    obtain ⟨run, rest, rfl, parts, ended⟩ : ∃ run rest, text = run ++ rest ∧
        (∀ c ∈ run, isUrlChar c = true) ∧ ∀ c ∈ rest.head?, isUrlChar c = false := by
      refine ⟨_, _, List.takeWhile_append_dropWhile.symm, fun c => List.mem_takeWhile_imp, ?_⟩
      intro c mem
      have stopped := List.head?_dropWhile_not isUrlChar text
      rwa [mem] at stopped
    have within : ∀ c ∈ run, (!isUrlChar c) = false := fun c mem => by rw [parts c mem]; rfl
    have scan : stretches false (run ++ rest) =
        (firstUrl? run).toList ++ stretches false (rest.drop 1) :=
      stretches_append [] parts ended fun k lt => absurd lt (Nat.not_lt_zero k)
    cases rest with
    | nil =>
      rw [scan, List.append_nil, runs, List.splitOnP_eq_singleton within, List.drop_nil, stretches]
      cases first : firstUrl? run <;> simp [first]
    | cons c rest =>
      have shorter : rest.length < n := by
        rw [← length, List.length_append, List.length_cons]
        omega
      have later := ih _ shorter rest rfl
      rw [scan, List.drop_succ_cons, List.drop_zero, later, runs, runs,
        List.splitOnP_append_cons_of_forall_mem within c (by rw [ended c rfl]; rfl)]
      cases first : firstUrl? run <;> simp [first]

/-- The scanner cuts a stretch at the separators that precede a known scheme. -/
lemma pieces_eq (stretch) : pieces stretch = cuts stretch := by
  induction stretch with
  | nil => rfl
  | cons c text ih =>
    obtain ⟨later, tails⟩ : ∃ later, text.tails = text :: later := by
      cases text <;> exact ⟨_, rfl⟩
    rw [pieces, ih, startsWithScheme_eq, cuts, cuts, List.tails_cons, List.tail_cons, tails,
      List.tail_cons, List.zip_cons_cons, List.splitOnP_cons_eq_if_modifyHead, joins]
    by_cases cut : (isSeparator c && isQualified 0 text) = true
    · rw [if_pos cut, if_pos cut, List.map_cons, List.map_nil]
    · rw [if_neg cut, if_neg cut]
      -- the character belongs to the first piece of the others
      obtain ⟨piece, others, eq⟩ :=
        List.exists_cons_of_ne_nil (List.splitOnP_ne_nil joins (text.zip later))
      rw [eq]
      rfl

/-- A bare scheme ends with its mark. -/
lemma isSuffixOf_of_isBare {url} (bare : isBare url = true) :
    schemeMark.toList.isSuffixOf url = true := by
  rw [isBare, List.any_eq_true] at bare
  obtain ⟨scheme, -, eq⟩ := bare
  rw [beq_iff_eq, marked, String.toList_append] at eq
  obtain ⟨start, mark, rfl, -, fold⟩ := List.map_eq_append_iff.1 eq
  have same : ∀ c ∈ mark, Unicode.foldAscii c = c := by
    intro c mem
    have no_letter : schemeMark.toList.any Char.isLower = false := rfl
    have folded : Unicode.foldAscii c ∈ schemeMark.toList := fold ▸ List.mem_map_of_mem mem
    have other := Bool.eq_false_iff.2 (List.any_eq_false.1 no_letter _ folded)
    exact (Unicode.eq_of_foldAscii_eq rfl other).symm
  have kept : mark = schemeMark.toList := by
    rw [← fold, List.map_congr_left same, List.map_id']
  rw [List.isSuffixOf_iff_suffix, kept]
  exact List.suffix_append _ _

/-- The scanner finds the candidates that do not end with the mark of a scheme. -/
lemma ofText_eq (text : String) :
    ofText text = ((candidates text).filter fun url => !schemeMark.toList.isSuffixOf url).map
      String.ofList := by
  rw [ofText, candidates, stretches_eq, List.filter_flatMap, List.map_flatMap]
  apply List.flatMap_congr
  intro stretch _
  rw [pieces_eq, ← List.filterMap_eq_map (f := String.ofList), List.filterMap_filter]
  apply List.filterMap_congr
  intro url _
  cases schemeMark.toList.isSuffixOf url <;> rfl

/-- The scanner reports exactly the addresses within the texts that do not end with the mark of a
scheme, in order: it is complete if and only if no address ends with such a mark. -/
theorem find_eq_filter_addresses (texts : List String) :
    find texts = (addresses texts).filter (fun url => !schemeMark.toList.isSuffixOf url.toList) ∧
      (find texts = addresses texts ↔
        ∀ url ∈ addresses texts, ¬ schemeMark.toList <:+ url.toList) := by
  -- the suffix test drops bare schemes and more
  have more (url : List Char) : (!schemeMark.toList.isSuffixOf url && !isBare url) =
      !schemeMark.toList.isSuffixOf url := by
    cases bare : isBare url with
    | false => rw [Bool.not_false, Bool.and_true]
    | true => rw [isSuffixOf_of_isBare bare, Bool.not_true, Bool.false_and]
  have found : find texts =
      (addresses texts).filter fun url => !schemeMark.toList.isSuffixOf url.toList := by
    rw [find, addresses, ← eraseDups_filter, List.filter_map, List.filter_filter]
    simp only [Function.comp_apply, String.toList_ofList, more]
    rw [List.filter_flatMap, List.map_flatMap]
    congr 1
    exact List.flatMap_congr fun text _ => ofText_eq text
  refine ⟨found, ?_⟩
  rw [found, List.filter_eq_self]
  simp only [Bool.not_eq_true', ← List.isSuffixOf_iff_suffix, Bool.not_eq_true]

/-- An address that ends with a bare scheme of its own is lost. -/
theorem find_loses_address : find ["http://r.example/?to=https://"] = [] ∧
    addresses ["http://r.example/?to=https://"] = ["http://r.example/?to=https://"] := by
  decide +kernel

end Url

end DexTriage
