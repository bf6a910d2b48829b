import Mathlib.Data.Finset.Insert
import DexTriage.Classification

/-!
# Gathering findings text by text

The findings in a list of texts, gathered while the texts are gone through one after the other. A
collector keeps a list of what has come in and, to tell quickly what has come in before, the set of
it; no list and set can stand side by side in it that do not hold the same texts. A catalog without
signatures is not asked about any text.
-/

namespace DexTriage

/-- The texts that have come in, and the set of them. -/
structure Collector where
  items : List String
  seen : Finset String
  mem_seen : ∀ text, text ∈ seen ↔ text ∈ items
  nodup : items.Nodup

namespace Collector

/-- Nothing has come in yet. -/
def empty : Collector where
  items := []
  seen := ∅
  mem_seen := by simp
  nodup := List.nodup_nil

/-- Takes in a text that has not come in before. -/
def add (collector : Collector) (text : String) (new : text ∉ collector.seen) : Collector where
  items := collector.items ++ [text]
  seen := insert text collector.seen
  mem_seen other := by
    rw [Finset.mem_insert, List.mem_append, List.mem_singleton, collector.mem_seen, or_comm]
  nodup := by
    rw [List.nodup_append_comm, List.singleton_append, List.nodup_cons, ← collector.mem_seen]
    exact ⟨new, collector.nodup⟩

/-- Takes in a text, unless it has come in before. -/
def take (collector : Collector) (text : String) : Collector :=
  if seen : text ∈ collector.seen then collector else collector.add text seen

/-- Takes in everything that the texts of a list yield, one text after the other. -/
def gather (yield : String → List String) (texts : List String) : Collector :=
  texts.foldl (fun collector text => (yield text).foldl take collector) empty

end Collector

/-- The addresses within any of the texts. -/
def Url.gather (texts : List String) : List String :=
  (Collector.gather ofText texts).items

/-- The texts that are names of commands. -/
def ShellCommand.gather (texts : List String) : List String :=
  (Collector.gather (fun text => [text]) (texts.filter isKnown)).items

namespace Catalog

/-- The labels of the signatures that match any of the texts. -/
def gather (catalog : Catalog) (texts : List String) : List String :=
  if catalog.signatures.isEmpty then [] else (Collector.gather catalog.labels texts).items

/-- The findings in a list of texts. -/
def gatherAll (catalog : Catalog) (texts : List String) : Classification where
  urls := Url.gather texts
  shellCommands := ShellCommand.gather texts
  signatures := catalog.gather texts

end Catalog

end DexTriage
