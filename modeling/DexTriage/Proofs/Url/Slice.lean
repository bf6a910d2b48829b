import Mathlib
import DexTriage.Proofs.Url.Scheme
import DexTriage.Proofs.Url.Trim
import DexTriage.Url.Slice

/-!
# Every offset is one of a character

The offsets that the searches give are those where characters start or end, so that nothing is ever
cut through: `findBySlices?_eq` says that there is a result, and that it is what the scanner finds.
-/

namespace DexTriage.Url

/-- One more character has its own bytes behind those of a text. -/
lemma utf8Len_concat (text : List Char) (c : Char) :
    String.utf8Len (text ++ [c]) = String.utf8Len text + c.utf8Size := by
  rw [String.utf8Len_append, String.utf8Len_cons, String.utf8Len_nil, Nat.zero_add]

/-- A part of a text is what is between the offsets where it starts and ends. -/
lemma slice?_ofList (before piece after : List Char) :
    slice? (String.ofList (before ++ (piece ++ after))) (String.utf8Len before)
      (String.utf8Len (before ++ piece)) = some (String.ofList piece) := by
  rw [slice?_eq_some_iff]
  refine ⟨String.ofList before, String.ofList after, ?_, ?_, ?_⟩
  · rw [String.ofList_append, String.ofList_append]
  · rw [String.utf8ByteSize_ofList]
  · rw [String.utf8Len_append, String.utf8ByteSize_ofList]

/-- The stretches are what is between their offsets. -/
lemma mapM_spans (inWord) (before text : List Char) :
    (spans inWord (String.utf8Len before) text).mapM
      (fun span => slice? (String.ofList (before ++ text)) span.1 span.2) =
      some ((stretches inWord text).map String.ofList) := by
  fun_induction stretches inWord text generalizing before with
  | case1 =>
    rw [spans]
    rfl
  | case2 inWord c text starts ih =>
    have run : c :: text =
        (c :: text.takeWhile isUrlChar) ++ text.dropWhile isUrlChar := by
      rw [List.cons_append, List.takeWhile_append_dropWhile]
    have cut := slice?_ofList before (c :: text.takeWhile isUrlChar) (text.dropWhile isUrlChar)
    have later := ih (before ++ c :: text.takeWhile isUrlChar)
    rw [← run] at cut
    rw [List.append_assoc, ← run] at later
    rw [spans, if_pos starts, List.mapM_cons, ← String.utf8Len_append, cut, later]
    rfl
  | case3 inWord c text starts ih =>
    have later := ih (before ++ [c])
    rw [utf8Len_concat, List.append_assoc, List.singleton_append] at later
    rw [spans, if_neg starts]
    exact later

lemma isSeparator_iff {c} : isSeparator c = true ↔ (c = ',' ∨ c = ';') ∨ c = '|' := by
  rw [isSeparator, Bool.or_eq_true, Bool.or_eq_true, decide_eq_true_iff, decide_eq_true_iff,
    decide_eq_true_iff]

/-- A separator has a single byte. -/
lemma utf8Size_of_isSeparator {c} (separator : isSeparator c = true) : c.utf8Size = 1 := by
  obtain (rfl | rfl) | rfl := isSeparator_iff.1 separator
  all_goals rfl

/-- No character joins addresses that a known scheme consists of. -/
lemma isSeparator_of_foldAscii_mem {scheme c} (known : scheme ∈ schemes)
    (mem : Unicode.foldAscii c ∈ marked scheme) : isSeparator c = false := by
  have parts : (schemes.all fun scheme => (marked scheme).all fun c => !isSeparator c) = true := by
    decide +kernel
  have part := List.all_eq_true.1 (List.all_eq_true.1 parts scheme known) _ mem
  rw [Bool.eq_false_iff]
  intro separator
  obtain (rfl | rfl) | rfl := isSeparator_iff.1 separator
  all_goals cases part

/-- A text that starts with a known scheme has no separator within that. -/
lemma isSeparator_of_mem_take {text : List Char} :
    ∀ c ∈ text.take (schemeLength text), isSeparator c = false := by
  intro c mem
  rw [schemeLength] at mem
  split at mem
  next rest dropped =>
    obtain ⟨scheme, known, start, rfl⟩ := dropScheme?_eq_some_iff.1 dropped
    have le := start.length_le
    rw [List.length_map] at le
    rw [List.length_drop, Nat.sub_sub_self le] at mem
    apply isSeparator_of_foldAscii_mem known
    rw [List.prefix_iff_eq_take.1 start, ← List.map_take]
    exact List.mem_map_of_mem mem
  next => cases mem

/-- There is at least one piece. -/
lemma pieces_ne_nil (text) : pieces text ≠ [] := by
  fun_induction pieces text <;> simp

/-- A character that does not come before an address belongs to the first piece. -/
lemma pieces_cons {c text} (within : (isSeparator c && startsWithScheme text) = false) :
    pieces (c :: text) = (pieces text).modifyHead (c :: ·) := by
  rw [pieces, if_neg (by rw [within]; exact Bool.false_ne_true)]
  obtain ⟨piece, others, eq⟩ := List.exists_cons_of_ne_nil (pieces_ne_nil text)
  rw [eq]
  rfl

/-- So do several characters, none of which is a separator. -/
lemma pieces_append {start : List Char} (within : ∀ c ∈ start, isSeparator c = false) (text) :
    pieces (start ++ text) = (pieces text).modifyHead (start ++ ·) := by
  induction start with
  | nil => exact (congrFun List.modifyHead_id _).symm
  | cons c start ih =>
    rw [List.forall_mem_cons] at within
    rw [List.cons_append, pieces_cons (by rw [within.1, Bool.false_and]), ih within.2,
      List.modifyHead_modifyHead]
    rfl

/-- What is cut at the separators are the pieces. The search has come to `text`, and there is no
separator from `start` on. -/
lemma cutAt?_separators {offset} {before start text : List Char}
    (reached : offset = String.utf8Len (before ++ start)) :
    cutAt? (String.ofList (before ++ (start ++ text))) (String.utf8Len before)
      (separators offset text) =
      some (((pieces text).modifyHead (start ++ ·)).map String.ofList) := by
  fun_induction separators offset text generalizing before start with
  | case1 =>
    have cut := slice?_ofList before start []
    rw [List.append_nil, ← String.utf8ByteSize_ofList (before ++ start)] at cut
    rw [cutAt?, List.append_nil, cut, pieces, List.modifyHead_cons, List.append_nil]
    rfl
  | case2 offset c text joins ih =>
    -- the separator ends a piece, and the next one goes on behind the scheme at least
    have one := utf8Size_of_isSeparator (Bool.and_eq_true_iff.1 joins).1
    have cut := slice?_ofList before start (c :: text)
    have behind : String.utf8Len (before ++ start ++ [c]) = offset + 1 := by
      rw [utf8Len_concat, ← reached, one]
    have reached' : offset + String.utf8Len (c :: text.take (schemeLength text)) =
        String.utf8Len (before ++ start ++ [c] ++ text.take (schemeLength text)) := by
      rw [String.utf8Len_append, behind, String.utf8Len_cons, one, Nat.add_right_comm offset 1,
        Nat.add_assoc]
    have later := ih reached'
    rw [List.take_append_drop, behind, ← pieces_append isSeparator_of_mem_take,
      List.take_append_drop, List.append_assoc, List.append_assoc, List.singleton_append] at later
    rw [cutAt?, reached, cut, pieces, if_pos joins, ← reached, later, List.modifyHead_cons,
      List.append_nil]
    rfl
  | case3 offset c text within ih =>
    have reached' : offset + c.utf8Size = String.utf8Len (before ++ (start ++ [c])) := by
      rw [← List.append_assoc, utf8Len_concat, ← reached]
    have later := ih reached'
    rw [List.append_assoc, List.singleton_append] at later
    rw [later, pieces_cons (Bool.eq_false_iff.2 within), List.modifyHead_modifyHead]
    simp only [Function.comp_def, List.append_assoc, List.singleton_append]

/-- What is cut off with the bytes of the last character is that character. -/
lemma slice?_concat (before : List Char) (last : Char) :
    slice? (String.ofList (before ++ [last])) 0
      ((String.ofList (before ++ [last])).utf8ByteSize - last.utf8Size) =
      some (String.ofList before) := by
  have size : String.utf8Len (before ++ [last]) - last.utf8Size = String.utf8Len before := by
    rw [utf8Len_concat, Nat.add_sub_cancel]
  rw [String.utf8ByteSize_ofList, size]
  exact slice?_ofList [] before [last]

/-- Trimming looks at the last character. -/
lemma trimBySlices?_concat (before : List Char) (last : Char) :
    trimBySlices? (String.ofList (before ++ [last])) =
      if trailingPunctuation.contains last && !closesBracket last (before ++ [last]) then
        trimBySlices? (String.ofList before)
      else
        some (String.ofList (before ++ [last])) := by
  have ends : (String.ofList (before ++ [last])).toList.getLast? = some last := by
    rw [String.toList_ofList, List.getLast?_concat]
  rw [trimBySlices?]
  split
  next none_last => cases none_last.symm.trans ends
  next last' some_last =>
    obtain rfl := Option.some.inj (some_last.symm.trans ends)
    refine if_congr (by rw [String.toList_ofList]) ?_ rfl
    split
    next refused => cases refused.symm.trans (slice?_concat before last')
    next shorter cut =>
      obtain rfl := Option.some.inj (cut.symm.trans (slice?_concat before last'))
      rfl

/-- Trimming cuts off whole characters. -/
lemma trimBySlices?_eq (text : String) :
    trimBySlices? text = some (String.ofList (trim text.toList)) := by
  have trimmed (text : List Char) :
      trimBySlices? (String.ofList text) = some (String.ofList (trim text)) := by
    induction text using List.reverseRecOn with
    | nil =>
      rw [trimBySlices?]
      rfl
    | append_singleton before last ih =>
      rw [trimBySlices?_concat, trim_concat, ih]
      split <;> rfl
  have whole := trimmed text.toList
  rwa [String.ofList_toList] at whole

/-- A list on which a function never fails. -/
lemma mapM_of_eq_some {α β : Type} {f : α → Option β} {g : α → β} (succeeds : ∀ a, f a = some (g a))
    (items : List α) : items.mapM f = some (items.map g) := by
  rw [funext succeeds]
  exact List.mapM_pure

/-- The addresses within a stretch are the same. -/
lemma addressesBySlices?_eq (stretch : List Char) : addressesBySlices? (String.ofList stretch) =
    some (((pieces stretch).map trim).filterMap fun url =>
      if schemeMark.toList.isSuffixOf url then none else some (String.ofList url)) := by
  have cut : cutAt? (String.ofList stretch) 0 (separators 0 stretch) =
      some ((pieces stretch).map String.ofList) := by
    have cut := @cutAt?_separators 0 [] [] stretch rfl
    rwa [show (pieces stretch).modifyHead ([] ++ ·) = pieces stretch from
      congrFun List.modifyHead_id _] at cut
  have trimmed : ((pieces stretch).map String.ofList).mapM trimBySlices? =
      some (((pieces stretch).map trim).map String.ofList) := by
    rw [mapM_of_eq_some trimBySlices?_eq, List.map_map, List.map_map]
    simp only [Function.comp_def, String.toList_ofList]
  rw [addressesBySlices?, String.toList_ofList, cut, Option.bind_eq_bind, Option.bind_some, trimmed,
    Option.bind_some, List.filter_map, ← List.filterMap_eq_map (f := String.ofList),
    List.filterMap_filter]
  refine congrArg some (List.filterMap_congr fun url _ => ?_)
  rw [Function.comp_apply, String.toList_ofList]
  cases schemeMark.toList.isSuffixOf url <;> rfl

/-- The addresses within a text are the same. -/
lemma ofTextBySlices?_eq (text : String) : ofTextBySlices? text = some (ofText text) := by
  have cut : (spans false 0 text.toList).mapM (fun span => slice? text span.1 span.2) =
      some ((stretches false text.toList).map String.ofList) := by
    have cut := mapM_spans false [] text.toList
    rwa [List.nil_append, String.ofList_toList] at cut
  have each (stretch : List Char) : (addressesBySlices? ∘ String.ofList) stretch = some _ :=
    addressesBySlices?_eq stretch
  rw [ofTextBySlices?, cut, Option.bind_eq_bind, Option.bind_some, List.mapM_map,
    mapM_of_eq_some each, ofText, List.flatMap_def]
  rfl

/-- Going by offsets always has a result, which is what the scanner finds. -/
lemma findBySlices?_eq (texts : List String) : findBySlices? texts = some (find texts) := by
  rw [findBySlices?, mapM_of_eq_some ofTextBySlices?_eq, find, List.flatMap_def]
  rfl

end DexTriage.Url
