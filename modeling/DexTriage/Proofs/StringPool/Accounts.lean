import Mathlib
import DexTriage.Proofs.StringPool.Outcome

/-!
# A pool accounts for every id

`StringPool.Accounts` says that texts and omissions together make up the ids below a count: none is
lost, none stands twice, and both lists are in the order of the ids. One more entry keeps that,
whether it is a text (`Accounts.push`) or is refused (`Accounts.omit`), and so the pool that is read
from an image accounts for all of its ids (`accounts_read`).
-/

namespace DexTriage.StringPool

/-- The ids below `count` that are not omitted, in increasing order. -/
def keptIds (pool : StringPool) (count : Nat) : List Nat :=
  (List.range count).filter fun id => pool.omitted.all fun omission => omission.index != id

/-- The pool holds what comes of each of the ids below `count`, in their order. -/
structure Accounts (pool : StringPool) (count : Nat)
    (outcome : Nat → Except ImageError String) : Prop where
  /-- Every id is a text or an omission. -/
  total : pool.strings.length + pool.omitted.length = count
  /-- The indexes of omissions are strictly increasing. -/
  increasing : (pool.omitted.map Omission.index).Pairwise (· < ·)
  /-- The indexes of omissions are ids. -/
  below : ∀ omission ∈ pool.omitted, omission.index < count
  /-- An omission says why its id has no text. -/
  refused : ∀ omission ∈ pool.omitted, outcome omission.index = .error omission.error
  /-- The texts are those of the other ids, one after the other. -/
  kept : (pool.keptIds count).map outcome = pool.strings.map .ok

variable {pool : StringPool} {count : Nat} {outcome : Nat → Except ImageError String}

/-- The next id is kept unless it is omitted. -/
lemma keptIds_succ :
    pool.keptIds (count + 1) =
      pool.keptIds count ++
        [count].filter fun id => pool.omitted.all fun omission => omission.index != id := by
  rw [keptIds, keptIds, List.range_succ, List.filter_append]

/-- One more text keeps the account. -/
lemma Accounts.push {text} (acc : Accounts pool count outcome) (next : outcome count = .ok text) :
    Accounts ⟨pool.strings ++ [text], pool.omitted⟩ (count + 1) outcome where
  total := by
    have total := acc.total
    have longer : (pool.strings ++ [text]).length = pool.strings.length + 1 :=
      List.length_append
    show (pool.strings ++ [text]).length + pool.omitted.length = count + 1
    omega
  increasing := acc.increasing
  below omission mem := by
    have := acc.below omission mem
    omega
  refused := acc.refused
  kept := by
    have fresh : (pool.omitted.all fun omission => omission.index != count) = true := by
      rw [List.all_eq_true]
      intro omission mem
      have := acc.below omission mem
      simp only [bne_iff_ne, ne_eq]
      omega
    have one : [count].filter (fun id => pool.omitted.all fun omission => omission.index != id) =
        [count] := by
      rw [List.filter_cons_of_pos (by exact fresh), List.filter_nil]
    calc (keptIds ⟨pool.strings ++ [text], pool.omitted⟩ (count + 1)).map outcome
        = (pool.keptIds count ++ [count]).map outcome := by
          rw [← one, ← keptIds_succ]
          rfl
      _ = (pool.strings ++ [text]).map Except.ok := by
          rw [List.map_append, acc.kept, List.map_append, List.map_singleton, next,
            List.map_singleton]

/-- One more omission keeps the account. -/
lemma Accounts.omit {e} (acc : Accounts pool count outcome) (next : outcome count = .error e) :
    Accounts ⟨pool.strings, pool.omitted ++ [⟨count, e⟩]⟩ (count + 1) outcome where
  total := by
    have total := acc.total
    have longer : (pool.omitted ++ [(⟨count, e⟩ : Omission)]).length = pool.omitted.length + 1 :=
      List.length_append
    show pool.strings.length + (pool.omitted ++ [(⟨count, e⟩ : Omission)]).length = count + 1
    omega
  increasing := by
    rw [List.map_append, List.pairwise_append]
    refine ⟨acc.increasing, List.pairwise_singleton _ _, ?_⟩
    intro index earlier last memLast
    obtain ⟨omission, mem, rfl⟩ := List.mem_map.1 earlier
    obtain rfl : last = count := List.mem_singleton.1 memLast
    exact acc.below omission mem
  below omission mem := by
    obtain mem | mem := List.mem_append.1 mem
    · have := acc.below omission mem
      omega
    · obtain rfl := List.mem_singleton.1 mem
      exact Nat.lt_succ_self count
  refused omission mem := by
    obtain mem | mem := List.mem_append.1 mem
    · exact acc.refused omission mem
    · obtain rfl := List.mem_singleton.1 mem
      exact next
  kept := by
    -- the new omission takes away the new id, and no id before it
    have none : [count].filter (fun id =>
        (pool.omitted ++ [(⟨count, e⟩ : Omission)]).all fun omission => omission.index != id) =
          [] := by
      simp
    have before : (keptIds ⟨pool.strings, pool.omitted ++ [⟨count, e⟩]⟩ count) =
        pool.keptIds count := by
      apply List.filter_congr
      intro id mem
      have smaller : count ≠ id := (List.mem_range.1 mem).ne'
      simp [smaller]
    rw [keptIds_succ, none, List.append_nil, before, acc.kept]

/-- The pool of no entries accounts for no ids. -/
lemma Accounts.nil : Accounts (ofEntries []) 0 outcome where
  total := rfl
  increasing := List.Pairwise.nil
  below := nofun
  refused := nofun
  kept := rfl

/-- A text at the end of the entries comes at the end of the texts. -/
lemma ofEntries_concat_ok (entries text) :
    ofEntries (entries ++ [.ok text]) =
      ⟨(ofEntries entries).strings ++ [text], (ofEntries entries).omitted⟩ := by
  simp [ofEntries, List.zipIdx_append, Except.toOption]

/-- A refused entry at the end of the entries comes at the end of the omissions. -/
lemma ofEntries_concat_error (entries e) :
    ofEntries (entries ++ [.error e]) =
      ⟨(ofEntries entries).strings, (ofEntries entries).omitted ++ [⟨entries.length, e⟩]⟩ := by
  simp [ofEntries, List.zipIdx_append, Except.toOption]

/-- The pool of the entries of the ids below a count accounts for these ids. -/
lemma accounts_ofEntries (count) (outcome : Nat → Except ImageError String) :
    Accounts (ofEntries ((List.range count).map outcome)) count outcome := by
  induction count with
  | zero => exact .nil
  | succ count ih =>
    rw [List.range_succ, List.map_append, List.map_singleton]
    cases next : outcome count with
    | ok text =>
      rw [ofEntries_concat_ok]
      exact ih.push next
    | error e =>
      rw [ofEntries_concat_error, List.length_map, List.length_range]
      exact ih.omit next

/-- Up to the first omission, the position of a text is its id. -/
lemma Accounts.get?_eq {id} (acc : Accounts pool count outcome) (listed : id < count)
    (before : ∀ omission ∈ pool.omitted, ¬ omission.index ≤ id) :
    ∃ text, outcome id = .ok text ∧ pool.get? id = some text := by
  have start : (pool.keptIds count)[id]? = some id := by
    obtain ⟨rest, rfl⟩ := Nat.exists_eq_add_of_lt listed
    have all : (List.range (id + 1)).filter
        (fun id => pool.omitted.all fun omission => omission.index != id) = List.range (id + 1) := by
      rw [List.filter_eq_self]
      intro other mem
      rw [List.all_eq_true]
      intro omission omitted
      have := before omission omitted
      have := List.mem_range.1 mem
      simp only [bne_iff_ne, ne_eq]
      omega
    rw [keptIds, Nat.add_right_comm, List.range_add, List.filter_append, all,
      List.getElem?_append_left (by rw [List.length_range]; omega),
      List.getElem?_range (Nat.lt_succ_self id)]
  have same := congrArg (fun list => list[id]?) acc.kept
  simp only [List.getElem?_map, start, Option.map_some] at same
  obtain ⟨text, found, eq⟩ := Option.map_eq_some_iff.1 same.symm
  exact ⟨text, eq.symm, found⟩

/-- Only the ids below the count have texts. -/
lemma Accounts.lt_of_textOfId? {id text} (acc : Accounts pool count outcome)
    (kept : pool.textOfId? id = some text) : id < count := by
  rw [textOfId?] at kept
  split at kept
  · cases kept
  · obtain ⟨inside, -⟩ := List.getElem?_eq_some_iff.1 kept
    have few := List.countP_le_length (p := fun omission => omission.index < id) (l := pool.omitted)
    have total := acc.total
    omega

/-- The pool of an image accounts for every string id of its header: texts and omissions add up to
the count of ids, omissions are in strictly increasing order, and the texts are those of the ids
that are not omitted, one after the other. So a text stands at the position of its id wherever no
omission comes before it. -/
theorem accounts_read (image : Bytes) (header : Header) (limit : Nat) :
    Accounts (read image header limit) header.stringIds.count.toNat (entry image header limit) ∧
    ∀ id < header.stringIds.count.toNat,
      (∀ omission ∈ (read image header limit).omitted, ¬ omission.index ≤ id) →
      ∃ text, entry image header limit id = .ok text ∧
        (read image header limit).get? id = some text := by
  have acc := accounts_ofEntries header.stringIds.count.toNat (entry image header limit)
  exact ⟨acc, fun id listed before => acc.get?_eq listed before⟩

/-- Before the first omission, the text at a position is that of the id. -/
theorem accounts_read_short_image :
    (∀ omission ∈ (read shortImage shortHeader 100).omitted, ¬ omission.index ≤ 0) ∧
    ∃ text, entry shortImage shortHeader 100 0 = .ok text ∧
      (read shortImage shortHeader 100).get? 0 = some text := by
  have listed : (read shortImage shortHeader 100).omitted = [⟨1, .stringTooLong 116 100⟩] := by
    decide +kernel
  have before : ∀ omission ∈ (read shortImage shortHeader 100).omitted, ¬ omission.index ≤ 0 := by
    rw [listed]
    decide
  exact ⟨before, (accounts_read shortImage shortHeader 100).2 0 (by decide) before⟩

end DexTriage.StringPool
