import Mathlib
import DexTriage.Proofs.Json.Writer

/-!
# Values that keep what they are made of

A plain value is made of natural numbers, texts, lists and objects in which no key occurs twice
(`IsPlain`). It can be written, and a strict reader takes it if its numbers fit into 64 bits
(`IsPlain.isWritable`, `IsPlain.isStrictWithin`); what a member holds is looked up by its key
(`row?_ofMembers`).
-/

namespace DexTriage.Json

/-- No object within a value has a key twice. -/
inductive IsUnambiguous : Json → Prop where
  | null :
    IsUnambiguous .null
  | bool {b} :
    IsUnambiguous (.bool b)
  | number {number} :
    IsUnambiguous (.number number)
  | text {content} :
    IsUnambiguous (.text content)
  | list {items} :
    (∀ item ∈ items, IsUnambiguous item) →
    IsUnambiguous (.list items)
  | object {members} :
    (members.map Prod.fst).Nodup →
    (∀ member ∈ members, IsUnambiguous member.2) →
    IsUnambiguous (.object members)

/-- A value made of natural numbers of a kind, texts, lists and objects in which no key occurs
twice, with at most `depth` lists and objects around each other. -/
inductive IsPlain (fits : Nat → Prop) : (depth : Nat) → Json → Prop where
  | number {depth n} :
    fits n →
    IsPlain fits depth (.ofNat n)
  | text {depth text} :
    IsPlain fits depth (.ofString text)
  | list {depth items} :
    (∀ item ∈ items, IsPlain fits depth item) →
    IsPlain fits (depth + 1) (.list items)
  | object {depth} {members : List (String × Json)} :
    (members.map Prod.fst).Nodup →
    (∀ member ∈ members, IsPlain fits depth member.2) →
    IsPlain fits (depth + 1) (.ofMembers members)

variable {fits : Nat → Prop} {depth : Nat} {json : Json}

/-- A list of texts is plain. -/
lemma isPlain_ofStrings (texts : List String) : IsPlain fits (depth + 1) (.ofStrings texts) := by
  refine .list fun item mem => ?_
  obtain ⟨text, -, rfl⟩ := List.mem_map.1 mem
  exact .text

/-- A plain value can be written. -/
lemma IsPlain.isWritable (plain : IsPlain fits depth json) : IsWritable json := by
  induction plain with
  | @number _ n _ => exact .number (Number.spells_ofNat n)
  | text => exact .text
  | list _ ih => exact .list ih
  | object _ _ ih =>
    refine .object (fun member mem => ?_) (fun member mem => ?_)
    · obtain ⟨named, -, rfl⟩ := List.mem_map.1 mem
      exact ⟨named.1, rfl⟩
    · obtain ⟨named, inside, rfl⟩ := List.mem_map.1 mem
      exact ih named inside

/-- No key occurs twice in a plain value. -/
lemma IsPlain.isUnambiguous (plain : IsPlain fits depth json) : IsUnambiguous json := by
  induction plain with
  | number => exact .number
  | text => exact .text
  | list _ ih => exact .list ih
  | @object _ members distinct _ ih =>
    refine .object ?_ fun member mem => ?_
    · have keys :
          (members.map fun member : String × Json => (some member.1, member.2)).map Prod.fst =
            (members.map Prod.fst).map some := by
        rw [List.map_map, List.map_map]
        rfl
      rw [keys]
      exact distinct.map (Option.some_injective _)
    · obtain ⟨named, inside, rfl⟩ := List.mem_map.1 mem
      exact ih named inside

/-- A strict reader takes a list if it takes the items. -/
lemma areStrictWithin_of_forall {items : List Json}
    (strict : ∀ item ∈ items, isStrictWithin depth item = true) :
    areStrictWithin depth items = true := by
  induction items with
  | nil => rw [areStrictWithin]
  | cons item items ih =>
    obtain ⟨first, others⟩ := List.forall_mem_cons.1 strict
    rw [areStrictWithin, first, ih others]
    rfl

/-- A strict reader takes an object if it takes what the members hold. -/
lemma areMembersStrictWithin_of_forall {members : List (String × Json)}
    (strict : ∀ member ∈ members, isStrictWithin depth member.2 = true) :
    areMembersStrictWithin depth (members.map fun (key, value) => (some key, value)) = true := by
  induction members with
  | nil => rw [List.map_nil, areMembersStrictWithin]
  | cons member members ih =>
    obtain ⟨first, others⟩ := List.forall_mem_cons.1 strict
    rw [List.map_cons, areMembersStrictWithin, first, ih others]
    rfl

/-- A strict reader takes a plain value of which every number has 64 bits. -/
lemma IsPlain.isStrictWithin (plain : IsPlain (· < UInt64.size) depth json) :
    isStrictWithin depth json = true := by
  induction plain with
  | number small =>
    rw [ofNat, Json.isStrictWithin]
    exact Number.isFinite_ofNat small
  | text => rw [ofString, Json.isStrictWithin, Option.isSome_some]
  | list _ ih =>
    rw [Json.isStrictWithin]
    exact areStrictWithin_of_forall ih
  | object _ _ ih =>
    rw [ofMembers, Json.isStrictWithin]
    exact areMembersStrictWithin_of_forall ih

/-! ## Looking up members -/

/-- What the only member with a key holds. -/
def member? (key : String) : Json → Option Json
  | .object members =>
    match members.filter fun member => member.1 == some key with
    | [(_, value)] => some value
    | _ => none
  | _ => none

/-- What the members with the given keys hold, each of which has to be there once. -/
def row? (json : Json) (keys : List String) : Option (List Json) :=
  keys.mapM fun key => json.member? key

/-- The natural number that a value is. -/
def toNat? : Json → Option Nat
  | .number n => n.toNat?
  | _ => none

/-- The text that a value is. -/
def toText? : Json → Option String
  | .text content => content
  | _ => none

/-- What can be got out of the items of a list. -/
def toList? {α : Type} (get : Json → Option α) : Json → Option (List α)
  | .list items => items.mapM get
  | _ => none

@[simp] lemma toNat?_ofNat (n : Nat) : toNat? (.ofNat n) = some n :=
  Number.toNat?_ofNat n

@[simp] lemma toText?_ofString (text : String) : toText? (.ofString text) = some text := rfl

/-- What every item has been made of is got out of a list again. -/
lemma toList?_map {α : Type} {put : α → Json} {get : Json → Option α}
    (gets : ∀ a, get (put a) = some a) (items : List α) :
    toList? get (.list (items.map put)) = some items := by
  rw [toList?]
  induction items with
  | nil => rfl
  | cons item items ih =>
    rw [List.map_cons, List.mapM_cons, gets, ih]
    rfl

@[simp] lemma toList?_ofStrings (texts : List String) :
    toList? toText? (.ofStrings texts) = some texts :=
  toList?_map toText?_ofString texts

/-- A member is found by its key, if no other member has that. -/
lemma member?_ofMembers {members : List (String × Json)} {key : String} {value : Json}
    (distinct : (members.map Prod.fst).Nodup) (mem : (key, value) ∈ members) :
    (ofMembers members).member? key = some value := by
  obtain ⟨before, behind, rfl⟩ := List.append_of_mem mem
  rw [List.map_append, List.map_cons, List.nodup_middle, List.nodup_cons,
    List.mem_append] at distinct
  have absent {others : List (String × Json)} (absent : key ∉ others.map Prod.fst) :
      (others.map fun (key, value) => (some key, value)).filter
        (fun member : Content × Json => member.1 == some key) = [] := by
    rw [List.filter_eq_nil_iff]
    intro member mem same
    obtain ⟨other, inside, rfl⟩ := List.mem_map.1 mem
    have same := Option.some.inj (beq_iff_eq.1 same)
    exact absent (List.mem_map.2 ⟨other, inside, same⟩)
  have only : ((before ++ (key, value) :: behind).map fun (key, value) => (some key, value)).filter
      (fun member : Content × Json => member.1 == some key) = [(some key, value)] := by
    rw [List.map_append, List.map_cons, List.filter_append,
      absent (fun inside => distinct.1 (.inl inside)), List.filter_cons_of_pos (by simp),
      absent (fun inside => distinct.1 (.inr inside))]
    rfl
  rw [ofMembers, member?, only]

/-- What all members hold is found by their keys. -/
lemma row?_ofMembers {members : List (String × Json)} (distinct : (members.map Prod.fst).Nodup) :
    (ofMembers members).row? (members.map Prod.fst) = some (members.map Prod.snd) := by
  -- on the members that are looked up, while the object that they are looked up in stays the same
  have found : ∀ row ⊆ members,
      (ofMembers members).row? (row.map Prod.fst) = some (row.map Prod.snd) := by
    intro row inside
    induction row with
    | nil => rfl
    | cons member row ih =>
      obtain ⟨mem, inside⟩ := List.cons_subset.1 inside
      have others := ih inside
      rw [row?] at others ⊢
      rw [List.map_cons, List.mapM_cons, member?_ofMembers distinct mem, others]
      rfl
  exact found members (List.Subset.refl members)

end DexTriage.Json
