import Mathlib
import DexTriage.Image.StringPool
import DexTriage.Proofs.Except

/-!
# Texts and string ids

A pool keeps the texts that could be read without the ids of those that could not.
`StringPool.textOfId?` goes back from an id to its text by counting the omissions before it, and
`textOfId?_ofEntries` shows that this finds the text of every entry that was read;
`mem_omitted_iff` says that the omissions are the entries that were refused.
-/

namespace DexTriage

/-- What comes of a text once its length has been read. -/
lemma textAt_of_read {image : Bytes} {offset units width} (limit)
    (read : Uleb128.read image offset = .ok (units, width)) :
    textAt image limit offset =
      if limit < units.toNat then .error (.stringTooLong units.toNat limit)
      else if image.size < offset + width + units.toNat then
        .error (.offsetOutOfRange (offset + width) units.toNat image.size)
      else
        Mutf8.decode (image.window (offset + width) (maxUnitWidth * units.toNat)) units.toNat := by
  rw [textAt, read, ok_bind]
  by_cases long : limit < units.toNat
  · simp only [if_pos long]
    rfl
  · simp only [if_neg long]
    split <;> rfl

namespace StringPool

/-- The text of a string id: every omission before the id moves its text by one position. -/
def textOfId? (pool : StringPool) (id : Nat) : Option String :=
  if pool.omitted.any fun omission => omission.index == id then none
  else pool.strings[id - pool.omitted.countP fun omission => omission.index < id]?

/-- The omission that an entry with its index leads to. -/
def omission? : Except ImageError String × Nat → Option Omission
  | (.ok _, _) => none
  | (.error error, index) => some ⟨index, error⟩

/-- The omissions of a list of entries, one entry after the other. -/
lemma omitted_ofEntries (entries) :
    (ofEntries entries).omitted = entries.zipIdx.filterMap omission? := by
  apply List.filterMap_congr
  rintro ⟨entry, index⟩ _
  cases entry <;> rfl

/-- An omission names an entry that was refused, and its error. -/
lemma omission?_eq_some_iff {entry index omission} :
    omission? (entry, index) = some omission ↔
      omission.index = index ∧ entry = .error omission.error := by
  obtain ⟨index', error'⟩ := omission
  cases entry with
  | ok text => simp [omission?]
  | error error =>
    simp only [omission?, Option.some.injEq, Omission.mk.injEq, Except.error.injEq]
    rw [eq_comm (a := index')]

/-- The omitted entries are those that were refused. -/
lemma mem_omitted_iff {entries omission} :
    omission ∈ (ofEntries entries).omitted ↔
      entries[omission.index]? = some (.error omission.error) := by
  rw [omitted_ofEntries, List.mem_filterMap]
  constructor
  · rintro ⟨⟨entry, index⟩, mem, eq⟩
    obtain ⟨rfl, rfl⟩ := omission?_eq_some_iff.1 eq
    exact List.mem_zipIdx_iff_getElem?.1 mem
  · intro refused
    exact ⟨(_, _), List.mem_zipIdx_iff_getElem?.2 refused, omission?_eq_some_iff.2 ⟨rfl, rfl⟩⟩

/-- Every entry is a text or an omission. -/
lemma length_filterMap_omission (entries : List (Except ImageError String)) (start) :
    ((entries.zipIdx start).filterMap omission?).length +
      (entries.filterMap Except.toOption).length = entries.length := by
  induction entries generalizing start with
  | nil => rfl
  | cons entry entries ih =>
    have rest := ih (start + 1)
    cases entry with
    | ok text =>
      simp only [List.zipIdx_cons, omission?, List.filterMap_cons, Except.toOption,
        List.length_cons]
      omega
    | error error =>
      simp only [List.zipIdx_cons, omission?, List.filterMap_cons, Except.toOption,
        List.length_cons]
      omega

/-- The omissions before an entry and the texts before it make up the entries before it. -/
lemma countP_omitted (before after) :
    ((ofEntries (before ++ after)).omitted.countP fun omission => omission.index < before.length) +
      (before.filterMap Except.toOption).length = before.length := by
  -- indices count on through both lists
  have inside : ((before.zipIdx).filterMap omission?).countP
      (fun omission => omission.index < before.length) =
        ((before.zipIdx).filterMap omission?).length := by
    rw [List.countP_eq_length]
    intro omission mem
    obtain ⟨⟨entry, index⟩, mem, eq⟩ := List.mem_filterMap.1 mem
    obtain ⟨rfl, -⟩ := omission?_eq_some_iff.1 eq
    have := List.snd_lt_of_mem_zipIdx mem
    simpa using this
  have outside : ((after.zipIdx before.length).filterMap omission?).countP
      (fun omission => omission.index < before.length) = 0 := by
    rw [List.countP_eq_zero]
    intro omission mem
    obtain ⟨⟨entry, index⟩, mem, eq⟩ := List.mem_filterMap.1 mem
    obtain ⟨rfl, -⟩ := omission?_eq_some_iff.1 eq
    have := List.le_snd_of_mem_zipIdx mem
    simpa using this
  rw [omitted_ofEntries, List.zipIdx_append, List.filterMap_append, List.countP_append, inside,
    Nat.zero_add, outside, Nat.add_zero]
  exact length_filterMap_omission before 0

/-- The text of an entry that was read is found by its id. -/
lemma textOfId?_ofEntries {entries id text} (read : entries[id]? = some (.ok text)) :
    (ofEntries entries).textOfId? id = some text := by
  have kept : ¬ ((ofEntries entries).omitted.any fun omission => omission.index == id) = true := by
    rw [List.any_eq_true]
    rintro ⟨omission, mem, eq⟩
    rw [beq_iff_eq] at eq
    rw [mem_omitted_iff, eq, read] at mem
    cases mem
  obtain ⟨inside, eq⟩ := List.getElem?_eq_some_iff.1 read
  obtain ⟨before, after, rfl, rfl⟩ : ∃ before after,
      entries = before ++ .ok text :: after ∧ before.length = id := by
    refine ⟨entries.take id, entries.drop (id + 1), ?_, by simp; omega⟩
    rw [← eq, List.getElem_cons_drop, List.take_append_drop]
  have count := countP_omitted before (.ok text :: after)
  rw [textOfId?, if_neg kept]
  have position : before.length - ((ofEntries (before ++ .ok text :: after)).omitted.countP
      fun omission => omission.index < before.length) =
        (before.filterMap Except.toOption).length := by
    omega
  rw [position, ofEntries, List.filterMap_append, List.filterMap_cons]
  simp [Except.toOption]

end StringPool

end DexTriage
