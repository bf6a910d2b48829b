/-!
# Work in batches

A list of items is cut into as many batches as there are workers, or fewer, and the batches are
worked on in parallel. The results are in the order of the items, however many workers there are.
-/

namespace DexTriage.Batch

/-- A list cut into batches of a size, of which only the last one may be shorter. No batch is
empty. -/
def cut {α : Type} (size : Nat) : List α → List (List α)
  | [] => []
  | item :: items => (item :: items.take (size - 1)) :: cut size (items.drop (size - 1))
termination_by items => items.length
decreasing_by simp only [List.length_cons, List.length_drop]; omega

/-- The size of the batches that share out `count` items among `workers`. -/
def size (workers count : Nat) : Nat :=
  (count + (max workers 1 - 1)) / max workers 1

/-- The size of the batches, computed with words of 64 bits. -/
def wordSize (workers count : UInt64) : UInt64 :=
  let share := count / max workers 1
  if 0 < count % max workers 1 then share + 1 else share

/-- The batches of a list for a number of workers, of whom there is at least one. -/
def share {α : Type} (workers : Nat) (items : List α) : List (List α) :=
  cut (size workers items.length) items

/-- Applies a function to each item, each batch in a task of its own. -/
def map {α β : Type} (workers : Nat) (f : α → β) (items : List α) : List β :=
  let tasks := (share workers items).map fun batch => Task.spawn fun _ => batch.map f
  tasks.flatMap Task.get

end DexTriage.Batch
