import Mathlib

/-!
# First sights

`List.eraseDups` keeps every element where it is first seen: it goes on, behind an element, with
what is different from that (`firstSight_induction`). So it can be left to the parts of a list
(`eraseDups_append_eraseDups`), and it keeps the order in which elements come up for the first time
(`pairwise_eraseDups_map`).
-/

namespace DexTriage

variable {α β : Type*} [BEq α]

/-- What holds of a list if it holds of those of its elements that are different from the first one
holds of all lists. -/
@[elab_as_elim]
lemma firstSight_induction {motive : List α → Prop} (nil : motive [])
    (cons : ∀ first others, motive (others.filter fun other => !other == first) →
      motive (first :: others)) (elements : List α) : motive elements := by
  induction length : elements.length using Nat.strong_induction_on generalizing elements with
  | _ n ih =>
    cases elements with
    | nil => exact nil
    | cons first others =>
      have shorter : (others.filter fun other => !other == first).length < n := by
        rw [← length, List.length_cons]
        exact Nat.lt_succ_of_le (List.length_filter_le _ _)
      exact cons first others (ih _ shorter _ rfl)

variable [LawfulBEq α]

/-- First sights are kept in order when some of the elements are left out. -/
lemma eraseDups_filter (p : α → Bool) (elements : List α) :
    (elements.filter p).eraseDups = elements.eraseDups.filter p := by
  induction elements using firstSight_induction with
  | nil => rfl
  | cons first others rest =>
    -- the erasure goes on without the first element, and so do both sides
    rw [List.filter_comm] at rest
    rw [List.eraseDups_cons, List.filter_cons, List.filter_cons]
    split
    next => rw [List.eraseDups_cons, rest]
    next out =>
      have none : (others.filter p).filter (fun other => !other == first) = others.filter p := by
        rw [List.filter_eq_self]
        intro other mem
        rw [Bool.not_eq_true', beq_eq_false_iff_ne]
        rintro rfl
        exact out (List.of_mem_filter mem)
      rw [← rest, none]

/-- No element is seen for the first time twice. -/
lemma nodup_eraseDups (elements : List α) : elements.eraseDups.Nodup := by
  induction elements using firstSight_induction with
  | nil => exact List.nodup_nil
  | cons first others rest =>
    rw [List.eraseDups_cons, List.nodup_cons]
    refine ⟨fun mem => ?_, rest⟩
    have other := List.of_mem_filter (List.mem_eraseDups.1 mem)
    simp at other

/-- Elements that are all different are all seen for the first time. -/
lemma eraseDups_of_nodup {elements : List α} (nodup : elements.Nodup) :
    elements.eraseDups = elements := by
  induction elements with
  | nil => rfl
  | cons first others ih =>
    obtain ⟨fresh, nodup⟩ := List.nodup_cons.1 nodup
    have all : others.filter (fun other => !other == first) = others := by
      rw [List.filter_eq_self]
      intro other mem
      rw [Bool.not_eq_true', beq_eq_false_iff_ne]
      rintro rfl
      exact fresh mem
    rw [List.eraseDups_cons, all, ih nodup]

/-- The first sights of a list start with those of its first part. -/
lemma eraseDups_prefix_append (before behind : List α) :
    before.eraseDups <+: (before ++ behind).eraseDups := by
  rw [List.eraseDups_append]
  exact List.prefix_append _ _

/-- The first sights of a list are those among the first sights of its parts. -/
lemma eraseDups_append_eraseDups (before behind : List α) :
    (before ++ behind).eraseDups = (before.eraseDups ++ behind.eraseDups).eraseDups := by
  have same (element : α) : before.eraseDups.contains element = before.contains element := by
    rw [Bool.eq_iff_iff, List.contains_iff_mem, List.contains_iff_mem, List.mem_eraseDups]
  rw [List.eraseDups_append, List.eraseDups_append, eraseDups_of_nodup (nodup_eraseDups before),
    List.removeAll, List.removeAll, eraseDups_filter, eraseDups_filter,
    eraseDups_of_nodup (nodup_eraseDups behind)]
  simp only [same]

/-- Nothing changes when the first sights of the first part are taken beforehand. -/
lemma eraseDups_eraseDups_append (before behind : List α) :
    (before.eraseDups ++ behind).eraseDups = (before ++ behind).eraseDups := by
  rw [eraseDups_append_eraseDups, eraseDups_append_eraseDups before,
    eraseDups_of_nodup (nodup_eraseDups before)]

/-- If elements come from sources that are in order, then of two of them the one that is seen first
has a source that is before all sources of the other. -/
lemma pairwise_eraseDups_map {r : β → β → Prop} (origin : β → α) {sources : List β}
    (ordered : sources.Pairwise r) :
    (sources.map origin).eraseDups.Pairwise fun earlier later =>
      ∃ source ∈ sources, origin source = earlier ∧
        ∀ other ∈ sources, origin other = later → r source other := by
  -- one more source at the end adds its element at the end, unless that has been seen
  induction sources using List.reverseRecOn with
  | nil => exact List.Pairwise.nil
  | append_singleton sources last ih =>
    obtain ⟨ordered, -, before⟩ := List.pairwise_append.1 ordered
    rw [List.map_append, List.map_singleton, List.eraseDups_append, List.pairwise_append]
    refine ⟨(ih ordered).imp ?_, ?_, fun earlier seen later mem => ?_⟩
    · rintro earlier later ⟨source, mem, eq, first⟩
      refine ⟨source, List.mem_append_left _ mem, eq, fun other mem' same => ?_⟩
      obtain mem' | mem' := List.mem_append.1 mem'
      · exact first other mem' same
      · exact before source mem other mem'
    · rw [List.removeAll, List.filter_singleton]
      cases (!List.elem (origin last) (sources.map origin)) with
      | true => exact List.pairwise_singleton _ _
      | false => exact List.Pairwise.nil
    · obtain ⟨source, mem', rfl⟩ := List.mem_map.1 (List.mem_eraseDups.1 seen)
      rw [List.mem_eraseDups, List.removeAll, List.mem_filter, List.mem_singleton] at mem
      obtain ⟨rfl, fresh⟩ := mem
      refine ⟨source, List.mem_append_left _ mem', rfl, fun other mem'' same => ?_⟩
      obtain mem'' | mem'' := List.mem_append.1 mem''
      · rw [List.elem_eq_true_of_mem (same ▸ List.mem_map_of_mem mem'')] at fresh
        cases fresh
      · exact before source mem' other mem''

end DexTriage
