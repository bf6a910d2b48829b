import Mathlib
import DexTriage.Proofs.CommandLine

/-!
# Workers with a batch each

The batches of a list are no more than there are workers, and none of them is empty or longer than
its share (`length_share_le`, `share_bounds`). Each worker takes the items of its batch one after
the other, and in between any other may take one of its own: a `Step` is one item, and `Runs` counts
the items of a whole run. What a step leaves as it is (`owed`) makes every run end with the results
for the items in their order (`Runs.collected_eq`). So the number of workers does not show in what a
request prints (`reports_in_parallel`).
-/

namespace DexTriage

namespace Batch

variable {α β : Type}

/-- There is at least one worker. -/
lemma workers_pos (workers : Nat) : 0 < max workers 1 :=
  lt_max_of_lt_right Nat.one_pos

/-- The batches of all workers together have room for all items. -/
lemma le_size_mul (workers count : Nat) : count ≤ size workers count * max workers 1 := by
  have pos := workers_pos workers
  have whole := Nat.div_add_mod (count + (max workers 1 - 1)) (max workers 1)
  have rest := Nat.mod_lt (count + (max workers 1 - 1)) pos
  rw [size, Nat.mul_comm]
  omega

/-- The batches of some items are not empty. -/
lemma size_pos (workers : Nat) {count : Nat} (some : 0 < count) : 0 < size workers count :=
  Nat.pos_of_mul_pos_right (some.trans_le (le_size_mul workers count))

/-- The size of the batches is a quotient that is rounded up. -/
lemma size_eq_div_add (workers count : Nat) :
    size workers count =
      count / max workers 1 + if 0 < count % max workers 1 then 1 else 0 := by
  have pos := workers_pos workers
  have whole := Nat.div_add_mod count (max workers 1)
  have less := Nat.mod_lt count pos
  rw [size, Nat.div_eq_iff pos]
  split
  · rw [Nat.add_mul, Nat.mul_comm, Nat.one_mul]
    omega
  · rw [Nat.add_zero, Nat.mul_comm]
    omega

/-- Words of 64 bits do not overflow when the size of the batches is computed. -/
lemma toNat_wordSize (workers count : UInt64) :
    (wordSize workers count).toNat = size workers.toNat count.toNat := by
  have most : (max workers 1).toNat = max workers.toNat 1 := by
    change (if workers ≤ 1 then 1 else workers).toNat = _
    rw [max_def, apply_ite UInt64.toNat]
    exact if_congr UInt64.le_iff_toNat_le rfl rfl
  have share : (count / max workers 1).toNat = count.toNat / max workers.toNat 1 := by
    rw [UInt64.toNat_div, most]
  have rest : 0 < count % max workers 1 ↔ 0 < count.toNat % max workers.toNat 1 := by
    rw [UInt64.lt_iff_toNat_lt, UInt64.toNat_mod, most, UInt64.toNat_zero]
  simp only [wordSize, rest, size_eq_div_add]
  split
  case isTrue some =>
    -- there is a remainder, so that the quotient is less than the count
    have whole := Nat.div_add_mod count.toNat (max workers.toNat 1)
    have least := Nat.le_mul_of_pos_left (count.toNat / max workers.toNat 1)
      (workers_pos workers.toNat)
    have bound := count.toNat_lt
    rw [UInt64.toNat_add, share, UInt64.toNat_one, Nat.mod_eq_of_lt]
    omega
  case isFalse => rw [share, Nat.add_zero]

/-- Batches that have room for the items are no more than that takes. -/
lemma length_cut_le {size workers : Nat} {items : List α} (room : items.length ≤ size * workers)
    (some : 0 < size) : (cut size items).length ≤ workers := by
  fun_induction cut size items generalizing workers with
  | case1 => exact Nat.zero_le _
  | case2 item items ih =>
    cases workers with
    | zero => cases room
    | succ workers =>
      rw [List.length_cons, Nat.mul_succ] at room
      refine Nat.succ_le_succ (ih ?_)
      rw [List.length_drop]
      omega

/-- A batch has an item, and no more items than its size. -/
lemma cut_bounds {size : Nat} {items batch : List α} (some : 0 < size)
    (mem : batch ∈ cut size items) : batch ≠ [] ∧ batch.length ≤ size := by
  fun_induction cut size items with
  | case1 => cases mem
  | case2 item items ih =>
    obtain rfl | mem := List.mem_cons.1 mem
    · refine ⟨List.cons_ne_nil _ _, ?_⟩
      rw [List.length_cons, List.length_take]
      omega
    · exact ih mem

/-- There are no more batches than workers, of whom there is at least one. -/
lemma length_share_le (workers : Nat) (items : List α) :
    (share workers items).length ≤ max workers 1 := by
  cases items with
  | nil =>
    rw [share, cut]
    exact Nat.zero_le _
  | cons item items =>
    exact length_cut_le (le_size_mul workers _) (size_pos workers (Nat.succ_pos _))

/-- A batch that is shared out has an item, and no more items than its size. -/
lemma share_bounds {workers : Nat} {items batch : List α} (mem : batch ∈ share workers items) :
    batch ≠ [] ∧ batch.length ≤ size workers items.length := by
  cases items with
  | nil =>
    rw [share, cut] at mem
    cases mem
  | cons item items => exact cut_bounds (size_pos workers (Nat.succ_pos _)) mem

/-- A worker: the results so far, and the items that are left of the batch. -/
structure Worker (α β : Type) where
  done : List β
  left : List α

/-- A worker before the first item. -/
def Worker.ofBatch (batch : List α) : Worker α β := ⟨[], batch⟩

/-- One of the workers takes the next item, and the others stay as they are. -/
inductive Step (f : α → β) : List (Worker α β) → List (Worker α β) → Prop where
  | take {before after done item left} :
    Step f (before ++ ⟨done, item :: left⟩ :: after) (before ++ ⟨done ++ [f item], left⟩ :: after)

/-- Workers take a number of items, one after the other, in any order of the workers. -/
inductive Runs (f : α → β) : Nat → List (Worker α β) → List (Worker α β) → Prop where
  | rest {team} :
    Runs f 0 team team
  | step {n team team' team''} :
    Step f team team' →
    Runs f n team' team'' →
    Runs f (n + 1) team team''

/-- The items that are left to any of the workers. -/
def pending (team : List (Worker α β)) : List α :=
  team.flatMap Worker.left

/-- The results of the workers, one worker after the other. -/
def collected (team : List (Worker α β)) : List β :=
  team.flatMap Worker.done

/-- The results of the workers when nothing is left. -/
def owed (f : α → β) (team : List (Worker α β)) : List β :=
  team.flatMap fun worker => worker.done ++ worker.left.map f

variable {f : α → β} {team team' : List (Worker α β)}

/-- A step leaves what is owed as it is. -/
lemma Step.owed_eq (step : Step f team team') : owed f team' = owed f team := by
  cases step with
  | take =>
    simp only [owed, List.flatMap_append, List.flatMap_cons, List.map_cons, List.append_assoc,
      List.singleton_append]

/-- A step takes one item. -/
lemma Step.length_pending (step : Step f team team') :
    (pending team').length + 1 = (pending team).length := by
  cases step with
  | take =>
    simp only [pending, List.flatMap_append, List.flatMap_cons, List.length_append,
      List.length_cons]
    omega

/-- A worker to whom an item is left can take it. -/
lemma exists_step (left : pending team ≠ []) : ∃ team', Step f team team' := by
  obtain ⟨item, mem⟩ := List.exists_mem_of_ne_nil _ left
  obtain ⟨⟨done, items⟩, worker, next⟩ := List.mem_flatMap.1 mem
  obtain ⟨before, after, rfl⟩ := List.append_of_mem worker
  cases items with
  | nil => exact absurd next List.not_mem_nil
  | cons item items => exact ⟨_, .take⟩

/-- Nothing is owed beyond the results if nothing is left. -/
lemma owed_eq_collected (none : pending team = []) : owed f team = collected team := by
  refine List.flatMap_congr fun worker mem => ?_
  rw [List.flatMap_eq_nil_iff.1 none worker mem, List.map_nil, List.append_nil]

/-- A run leaves what is owed as it is. -/
lemma Runs.owed_eq {n} (runs : Runs f n team team') : owed f team' = owed f team := by
  induction runs with
  | rest => rfl
  | step step _ ih => exact ih.trans step.owed_eq

/-- A run takes as many items as it has steps. -/
lemma Runs.length_pending {n} (runs : Runs f n team team') :
    (pending team').length + n = (pending team).length := by
  induction runs with
  | rest => rfl
  | step step _ ih => rw [← step.length_pending, ← ih, Nat.add_assoc]

/-- What is left at first are all the items. -/
lemma pending_ofBatch (batches : List (List α)) :
    pending (batches.map (Worker.ofBatch (β := β))) = batches.flatten := by
  rw [pending, List.flatMap_map]
  exact List.flatMap_id'

/-- What is owed at first are the results for all the items. -/
lemma owed_ofBatch (f : α → β) (batches : List (List α)) :
    owed f (batches.map Worker.ofBatch) = batches.flatten.map f := by
  rw [owed, List.flatMap_map, List.map_flatten, List.flatMap_def]
  rfl

/-- Whatever the order in which workers take items, there is an item to take until all are taken, and
then the results are those for the items in their order. -/
lemma Runs.collected_eq {n workers} {items : List α}
    (runs : Runs f n ((share workers items).map Worker.ofBatch) team) :
    n ≤ items.length ∧ (n < items.length → ∃ team', Step f team team') ∧
      (n = items.length → collected team = items.map f) := by
  have count := runs.length_pending
  rw [pending_ofBatch, share, flatten_cut] at count
  refine ⟨by omega, fun less => exists_step ?_, fun all => ?_⟩
  · rw [← List.length_pos_iff]
    omega
  · have none : pending team = [] := by
      rw [← List.length_eq_zero_iff]
      omega
    rw [← owed_eq_collected none, runs.owed_eq, owed_ofBatch, share, flatten_cut]

end Batch

namespace CommandLine

/-- The batch of a worker does not show in the results. The files are shared out among as many
workers as are asked for, or one, or fewer, none of whom goes without a file, and the size of the
shares is computed without overflow. Whatever the order in which the workers take files, every run
goes on until all files are taken, and leaves one result for each file, in the order of the files:
those of taking one file after the other. So what a request prints is the same for any number of
workers. -/
theorem reports_in_parallel (files : List (String × Lookup)) (catalog : Catalog) (limits : Limits)
    (jobs : Nat) :
    (Batch.map jobs (fun (path, lookup) => triage catalog limits path lookup) files =
      files.map fun (path, lookup) => triage catalog limits path lookup) ∧
    (Batch.share jobs files).flatten = files ∧
    (Batch.share jobs files).length ≤ max jobs 1 ∧
    (∀ batch ∈ Batch.share jobs files,
      batch ≠ [] ∧ batch.length ≤ Batch.size jobs files.length) ∧
    (∀ workers count : UInt64, workers.toNat = jobs → count.toNat = files.length →
      (Batch.wordSize workers count).toNat = Batch.size jobs files.length) ∧
    (∀ n team,
      Batch.Runs (fun (path, lookup) => triage catalog limits path lookup) n
        ((Batch.share jobs files).map Batch.Worker.ofBatch) team →
      n ≤ files.length ∧
      (n < files.length → ∃ team',
        Batch.Step (fun (path, lookup) => triage catalog limits path lookup) team team') ∧
      (n = files.length → Batch.collected team =
        files.map fun (path, lookup) => triage catalog limits path lookup)) ∧
    ∀ disk paths json signatures jobs',
      answer disk (.report paths json signatures jobs limits) =
        answer disk (.report paths json signatures jobs' limits) := by
  refine ⟨Batch.map_eq _ _ _, Batch.flatten_cut _ _, Batch.length_share_le _ _,
    fun batch => Batch.share_bounds, ?_, fun n team => Batch.Runs.collected_eq, ?_⟩
  · rintro workers count rfl same
    rw [Batch.toNat_wordSize, same]
  · intro disk paths json signatures jobs'
    simp only [answer, report, Batch.map_eq]

/-- Three files that are not there. -/
def threeMissing : List (String × Lookup) :=
  [("a.dex", .absent), ("b.dex", .absent), ("c.dex", .absent)]

/-- The second of two workers may be the first one to be done; as many workers as a word can count
take one file each. -/
theorem reports_in_parallel_of_missing_files :
    (∃ team,
      Batch.Runs (fun (path, lookup) => triage {} {} path lookup) 3
        ((Batch.share 2 threeMissing).map Batch.Worker.ofBatch) team ∧
      Batch.collected team =
        [.error "got error while parsing dex: \"a.dex\": file not found: \"a.dex\"",
          .error "got error while parsing dex: \"b.dex\": file not found: \"b.dex\"",
          .error "got error while parsing dex: \"c.dex\": file not found: \"c.dex\""]) ∧
    (Batch.wordSize 0xFFFFFFFFFFFFFFFF 3).toNat = 1 := by
  obtain ⟨-, -, -, -, -, ends, -⟩ := reports_in_parallel threeMissing {} {} 2
  obtain ⟨-, -, -, -, words, -, -⟩ := reports_in_parallel threeMissing {} {} 0xFFFFFFFFFFFFFFFF
  have shares : Batch.share 2 threeMissing =
      [[("a.dex", .absent), ("b.dex", .absent)], [("c.dex", .absent)]] := by
    simp [Batch.share, Batch.size, Batch.cut, threeMissing]
  refine ⟨?_, (words 0xFFFFFFFFFFFFFFFF 3 rfl rfl).trans rfl⟩
  have runs : ∃ team, Batch.Runs (fun (path, lookup) => triage {} {} path lookup) 3
      ((Batch.share 2 threeMissing).map Batch.Worker.ofBatch) team := by
    rw [shares]
    exact ⟨_, .step (@Batch.Step.take _ _ _ [_] [] _ _ _)
      (.step (@Batch.Step.take _ _ _ [] [_] _ _ _)
        (.step (@Batch.Step.take _ _ _ [] [_] _ _ _) .rest))⟩
  obtain ⟨team, run⟩ := runs
  exact ⟨team, run, ((ends 3 team run).2.2 rfl).trans rfl⟩

end CommandLine

end DexTriage
