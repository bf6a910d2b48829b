import Mathlib
import DexTriage.Proofs.Except
import DexTriage.Signature.Catalog

/-!
# What a catalog is read from

Which values are entries of a catalog is a matter of two of their keys (`Catalog.Describes`), and
every value has to be one before any pattern is looked at. The entries are then added one after the
other (`Catalog.Chained`), up to the first pattern that does not compile. `Catalog.parse_iff_outcome`
lists all that can come of a text, and says that a catalog holds one signature for each entry.
-/

namespace DexTriage.Catalog

/-! ## Entries -/

/-- An object has a key exactly once, and a text is there. -/
def HoldsOnce (members : List (Json.Content × Json)) (key text : String) : Prop :=
  ∃ before behind, members = before ++ (some key, .ofString text) :: behind ∧
    ∀ member ∈ before ++ behind, member.1 ≠ some key

/-- What a value has to be to describe an entry. -/
inductive Describes : Json → Entry → Prop where
  /-- A literal counts whatever else the object holds. -/
  | literal {members label text} :
    HoldsOnce members "label" label →
    HoldsOnce members "literal" text →
    Describes (.object members) (.literal label text)
  /-- A pattern counts if there is no literal that does. -/
  | pattern {members label pattern} :
    HoldsOnce members "label" label →
    HoldsOnce members "regex" pattern →
    (∀ text, ¬ HoldsOnce members "literal" text) →
    Describes (.object members) (.pattern label pattern)

/-- The members with a key are a single text if the key is there once with it. -/
lemma filter_eq_text_iff {members key text} :
    (members.filter fun member : Json.Content × Json => member.1 == some key) =
      [(some key, .ofString text)] ↔ HoldsOnce members key text := by
  rw [List.filter_eq_cons_iff]
  constructor
  · rintro ⟨before, behind, rfl, absent, -, absent'⟩
    refine ⟨before, behind, rfl, fun member mem same => ?_⟩
    have matched : (member.1 == some key) = true := beq_iff_eq.2 same
    obtain mem | mem := List.mem_append.1 mem
    · exact absent member mem matched
    · exact List.filter_eq_nil_iff.1 absent' member mem matched
  · rintro ⟨before, behind, rfl, absent⟩
    refine ⟨before, behind, rfl, fun member mem matched => ?_, beq_self_eq_true _, ?_⟩
    · exact absent member (List.mem_append_left _ mem) (beq_iff_eq.1 matched)
    · rw [List.filter_eq_nil_iff]
      exact fun member mem matched =>
        absent member (List.mem_append_right _ mem) (beq_iff_eq.1 matched)

/-- The text that is looked up under a key is the one that the key is there once with. -/
lemma uniqueText?_eq_some_iff {members key text} :
    uniqueText? members key = some text ↔ HoldsOnce members key text := by
  rw [← filter_eq_text_iff, uniqueText?]
  constructor
  · intro found
    split at found
    · rename_i key' text' single
      cases found
      have mem := List.mem_singleton_self (key', Json.text (some text))
      rw [← single] at mem
      obtain rfl : key' = some key := beq_iff_eq.1 (List.mem_filter.1 mem).2
      exact single
    · cases found
  · intro single
    rw [single]
    rfl

/-- The entry that is read from a value is the one that the value describes. -/
lemma ofJson?_eq_some_iff {json entry} : Entry.ofJson? json = some entry ↔ Describes json entry := by
  cases json with
  | object members =>
    simp only [Entry.ofJson?, Option.bind_eq_bind, Option.bind_eq_some_iff]
    constructor
    · rintro ⟨label, labelled, read⟩
      have labelled := uniqueText?_eq_some_iff.1 labelled
      split at read
      · rename_i text found
        cases read
        exact .literal labelled (uniqueText?_eq_some_iff.1 found)
      · rename_i absent
        obtain ⟨pattern, found, read⟩ := Option.bind_eq_some_iff.1 read
        cases read
        refine .pattern labelled (uniqueText?_eq_some_iff.1 found) fun text holds => ?_
        rw [uniqueText?_eq_some_iff.2 holds] at absent
        cases absent
    · intro describes
      cases describes with
      | literal labelled holds =>
        refine ⟨_, uniqueText?_eq_some_iff.2 labelled, ?_⟩
        rw [uniqueText?_eq_some_iff.2 holds]
        rfl
      | @pattern _ label pattern labelled holds absent =>
        refine ⟨_, uniqueText?_eq_some_iff.2 labelled, ?_⟩
        have missing : uniqueText? members "literal" = none :=
          Option.eq_none_iff_forall_ne_some.2 fun text found =>
            absent text (uniqueText?_eq_some_iff.1 found)
        rw [missing, uniqueText?_eq_some_iff.2 holds]
        rfl
  | _ => exact ⟨nofun, nofun⟩

/-- All values are read if each describes an entry. -/
lemma mapM_eq_some_iff {items : List Json} {entries} :
    items.mapM Entry.ofJson? = some entries ↔ List.Forall₂ Describes items entries := by
  induction items generalizing entries with
  | nil => simp [eq_comm]
  | cons item items ih =>
    simp only [List.mapM_cons, Option.bind_eq_bind, Option.bind_eq_some_iff,
      List.forall₂_cons_left_iff, ofJson?_eq_some_iff, ih, Option.pure_def, Option.some.injEq]
    constructor
    · rintro ⟨entry, describes, entries, describe, rfl⟩
      exact ⟨entry, entries, describes, describe, rfl⟩
    · rintro ⟨entry, entries, describes, describe, rfl⟩
      exact ⟨entry, describes, entries, describe, rfl⟩

/-- The values are not read if one of them describes no entry. -/
lemma mapM_eq_none_iff {items : List Json} :
    items.mapM Entry.ofJson? = none ↔ ∃ item ∈ items, ∀ entry, ¬ Describes item entry := by
  induction items with
  | nil => simp
  | cons item items ih =>
    rw [List.exists_mem_cons_iff, ← ih, List.mapM_cons]
    cases read : Entry.ofJson? item with
    | none =>
      have nothing entry : ¬ Describes item entry := fun describes => by
        cases read.symm.trans (ofJson?_eq_some_iff.2 describes)
      exact ⟨fun _ => .inl nothing, fun _ => rfl⟩
    | some entry =>
      have describes := ofJson?_eq_some_iff.1 read
      cases items.mapM Entry.ofJson? with
      | none => exact ⟨fun _ => .inr rfl, fun _ => rfl⟩
      | some entries =>
        refine ⟨nofun, ?_⟩
        rintro (nothing | refused)
        · exact absurd describes (nothing entry)
        · cases refused

/-! ## Signatures -/

/-- The signature that an entry makes. -/
inductive Entry.Makes : Entry → Signature → Prop where
  | literal {label text} : Makes (.literal label text) ⟨label, .literal text⟩
  | pattern {label pattern matcher} :
    Matcher.compile? pattern = some matcher →
    Makes (.pattern label pattern) ⟨label, matcher⟩

/-- Entries are added to the empty catalog, the first one first. -/
inductive Chained : List Entry → Catalog → Prop where
  | empty : Chained [] {}
  | literal {entries catalog label text} :
    Chained entries catalog →
    Chained (entries ++ [.literal label text]) (catalog.addLiteral text label)
  | pattern {entries catalog label pattern grown} :
    Chained entries catalog →
    catalog.addPattern pattern label = .ok grown →
    Chained (entries ++ [.pattern label pattern]) grown

/-- A label is that of the first entry with a pattern that does not compile. -/
def FirstRefused (entries : List Entry) (label : String) : Prop :=
  ∃ before pattern behind, entries = before ++ .pattern label pattern :: behind ∧
    Matcher.compile? pattern = none ∧
    ∀ label' pattern', .pattern label' pattern' ∈ before → (Matcher.compile? pattern').isSome

/-- Adding an entry puts the signature that it makes behind the others. -/
lemma add_eq_ok_iff {catalog entry grown} :
    add catalog entry = .ok grown ↔
      ∃ signature, entry.Makes signature ∧ grown = ⟨catalog.signatures ++ [signature]⟩ := by
  cases entry with
  | literal label text =>
    constructor
    · intro added
      cases added
      exact ⟨_, .literal, rfl⟩
    · rintro ⟨signature, makes, rfl⟩
      cases makes
      rfl
  | pattern label pattern =>
    constructor
    · intro added
      rw [add, addPattern] at added
      split at added
      · rename_i matcher compiled
        cases added
        exact ⟨_, .pattern compiled, rfl⟩
      · cases added
    · rintro ⟨signature, makes, rfl⟩
      cases makes with
      | pattern compiled => rw [add, addPattern, compiled]

/-- An entry is refused for a pattern that does not compile. -/
lemma add_eq_error_iff {catalog entry e} :
    add catalog entry = .error e ↔
      ∃ label pattern, entry = .pattern label pattern ∧ Matcher.compile? pattern = none ∧
        e = .invalidPattern label := by
  cases entry with
  | literal label text =>
    refine ⟨nofun, ?_⟩
    rintro ⟨_, _, same, -⟩
    cases same
  | pattern label pattern =>
    constructor
    · intro refused
      rw [add, addPattern] at refused
      split at refused
      · cases refused
      · rename_i fails
        cases refused
        exact ⟨label, pattern, rfl, fails, rfl⟩
    · rintro ⟨_, _, same, fails, rfl⟩
      cases same
      rw [add, addPattern, fails]

/-- The signatures of all entries come behind those of the catalog to which they are added. -/
lemma foldlM_add_eq_ok_iff {entries catalog grown} :
    entries.foldlM add catalog = .ok grown ↔
      ∃ signatures, List.Forall₂ Entry.Makes entries signatures ∧
        grown = ⟨catalog.signatures ++ signatures⟩ := by
  induction entries generalizing catalog with
  | nil =>
    constructor
    · intro added
      cases added
      exact ⟨[], .nil, by rw [List.append_nil]⟩
    · rintro ⟨signatures, makes, rfl⟩
      cases makes
      rw [List.append_nil]
      rfl
  | cons entry entries ih =>
    simp only [List.foldlM_cons, bind_eq_ok_iff, add_eq_ok_iff, ih]
    constructor
    · rintro ⟨_, ⟨signature, makes, rfl⟩, signatures, make, rfl⟩
      exact ⟨signature :: signatures, .cons makes make, by rw [List.append_assoc]; rfl⟩
    · rintro ⟨_, make, rfl⟩
      cases make with
      | cons makes make => exact ⟨_, ⟨_, makes, rfl⟩, _, make, by rw [List.append_assoc]; rfl⟩

/-- Adding entries stops at the first pattern that does not compile. -/
lemma foldlM_add_eq_error_iff {entries catalog e} :
    entries.foldlM add catalog = .error e ↔
      ∃ label, FirstRefused entries label ∧ e = .invalidPattern label := by
  induction entries generalizing catalog with
  | nil =>
    refine ⟨nofun, ?_⟩
    rintro ⟨label, ⟨before, pattern, behind, same, -⟩, -⟩
    cases List.append_eq_nil_iff.1 same.symm |>.2
  | cons entry entries ih =>
    rw [List.foldlM_cons, bind_eq_error_iff, add_eq_error_iff]
    constructor
    · rintro (⟨label, pattern, rfl, fails, rfl⟩ | ⟨_, added, refused⟩)
      · exact ⟨label, ⟨[], pattern, entries, rfl, fails, nofun⟩, rfl⟩
      · obtain ⟨label, ⟨before, pattern, behind, rfl, fails, compile⟩, rfl⟩ := ih.1 refused
        refine ⟨label, ⟨entry :: before, pattern, behind, rfl, fails, ?_⟩, rfl⟩
        intro label' pattern' mem
        obtain rfl | mem := List.mem_cons.1 mem
        · obtain ⟨_, makes, -⟩ := add_eq_ok_iff.1 added
          cases makes with
          | pattern compiled => rw [compiled]; rfl
        · exact compile label' pattern' mem
    · rintro ⟨label, ⟨before, pattern, behind, same, fails, compile⟩, rfl⟩
      cases before with
      | nil =>
        cases same
        exact .inl ⟨label, pattern, rfl, fails, rfl⟩
      | cons _ before =>
        cases same
        have made : ∃ signature, entry.Makes signature := by
          cases entry with
          | literal label text => exact ⟨_, .literal⟩
          | pattern label pattern =>
            obtain ⟨matcher, compiled⟩ :=
              Option.isSome_iff_exists.1 (compile label pattern List.mem_cons_self)
            exact ⟨_, .pattern compiled⟩
        obtain ⟨signature, makes⟩ := made
        refine .inr ⟨_, add_eq_ok_iff.2 ⟨signature, makes, rfl⟩, ih.2 ⟨label, ?_, rfl⟩⟩
        exact ⟨before, pattern, behind, rfl, fails, fun label' pattern' mem =>
          compile label' pattern' (List.mem_cons_of_mem _ mem)⟩

/-- The last of some entries is added when the others are. -/
lemma foldlM_add_append_singleton {entries : List Entry} {entry catalog grown} :
    (entries ++ [entry]).foldlM add catalog = .ok grown ↔
      ∃ shorter, entries.foldlM add catalog = .ok shorter ∧ add shorter entry = .ok grown := by
  simp only [List.foldlM_append, List.foldlM_cons, List.foldlM_nil, bind_pure, bind_eq_ok_iff]

/-- Adding entries to the empty catalog in a row is a chain of single additions. -/
lemma foldlM_add_empty_eq_ok_iff {entries catalog} :
    entries.foldlM add {} = .ok catalog ↔ Chained entries catalog := by
  constructor
  · -- The last link of a chain is the last entry.
    intro added
    induction entries using List.reverseRecOn generalizing catalog with
    | nil =>
      cases added
      exact .empty
    | append_singleton entries entry ih =>
      obtain ⟨shorter, done, added⟩ := foldlM_add_append_singleton.1 added
      cases entry with
      | literal label text =>
        cases added
        exact .literal (ih done)
      | pattern label pattern => exact .pattern (ih done) added
  · intro chained
    induction chained with
    | empty => rfl
    | literal _ ih => exact foldlM_add_append_singleton.2 ⟨_, ih, rfl⟩
    | pattern _ added ih => exact foldlM_add_append_singleton.2 ⟨_, ih, added⟩

/-- A chain of additions leads to one signature for each entry, in the same order. -/
lemma chained_iff_makes {entries catalog} :
    Chained entries catalog ↔ List.Forall₂ Entry.Makes entries catalog.signatures := by
  rw [← foldlM_add_empty_eq_ok_iff, foldlM_add_eq_ok_iff]
  constructor
  · rintro ⟨signatures, make, rfl⟩
    exact make
  · exact fun make => ⟨_, make, rfl⟩

/-! ## Texts -/

/-- A text spells a list of values that a strict reader takes. -/
def Reads (text : String) (items : List Json) : Prop :=
  Json.parse? text = some (.list items) ∧ (Json.list items).isStrict

/-- What comes of a text. -/
inductive Outcome (text : String) : Except CatalogError Catalog → Prop where
  | unread :
    (∀ items, ¬ Reads text items) →
    Outcome text (.error .malformed)
  | malformed {items item} :
    Reads text items →
    item ∈ items →
    (∀ entry, ¬ Describes item entry) →
    Outcome text (.error .malformed)
  | invalidPattern {items entries label} :
    Reads text items →
    List.Forall₂ Describes items entries →
    FirstRefused entries label →
    Outcome text (.error (.invalidPattern label))
  | success {items entries catalog} :
    Reads text items →
    List.Forall₂ Describes items entries →
    Chained entries catalog →
    Outcome text (.ok catalog)

variable {text : String} {items : List Json}

/-- A text without a list of values is no catalog. -/
lemma parse_of_not_reads (unread : ∀ items, ¬ Reads text items) :
    parse text = .error .malformed := by
  have nothing : (Json.parse? text).bind entries? = none := by
    rw [Option.bind_eq_none_iff]
    intro json spelled
    cases json with
    | list items =>
      have lax : ¬ (Json.list items).isStrict := fun strict => unread items ⟨spelled, strict⟩
      rw [entries?, if_neg lax]
    | _ => exact ite_self _
  rw [parse, nothing]

/-- The entries in a text are those in its list of values. -/
lemma entries?_of_reads (reads : Reads text items) :
    (Json.parse? text).bind entries? = items.mapM Entry.ofJson? := by
  rw [reads.1]
  exact if_pos reads.2

/-- A list with a value that describes no entry is no catalog. -/
lemma parse_of_no_entry {item} (reads : Reads text items) (mem : item ∈ items)
    (nothing : ∀ entry, ¬ Describes item entry) : parse text = .error .malformed := by
  rw [parse, entries?_of_reads reads, mapM_eq_none_iff.2 ⟨item, mem, nothing⟩]

/-- What comes of a list of entries is what comes of adding them. -/
lemma parse_of_describe {entries} (reads : Reads text items)
    (describe : List.Forall₂ Describes items entries) : parse text = entries.foldlM add {} := by
  rw [parse, entries?_of_reads reads, mapM_eq_some_iff.2 describe]

/-- Every outcome is the one that reading gives. -/
lemma Outcome.eq_parse {result} (out : Outcome text result) : parse text = result := by
  cases out with
  | unread unread => exact parse_of_not_reads unread
  | malformed reads mem nothing => exact parse_of_no_entry reads mem nothing
  | invalidPattern reads describe refused =>
    rw [parse_of_describe reads describe]
    exact foldlM_add_eq_error_iff.2 ⟨_, refused, rfl⟩
  | success reads describe chained =>
    rw [parse_of_describe reads describe]
    exact foldlM_add_empty_eq_ok_iff.2 chained

/-- What reading gives is an outcome of the text. -/
lemma outcome_parse (text : String) : Outcome text (parse text) := by
  by_cases readable : ∃ items, Reads text items
  · obtain ⟨items, reads⟩ := readable
    cases read : items.mapM Entry.ofJson? with
    | none =>
      obtain ⟨item, mem, nothing⟩ := mapM_eq_none_iff.1 read
      have out : Outcome text _ := .malformed reads mem nothing
      rwa [out.eq_parse]
    | some entries =>
      have describe := mapM_eq_some_iff.1 read
      rw [parse_of_describe reads describe]
      cases added : entries.foldlM add {} with
      | error e =>
        obtain ⟨label, refused, rfl⟩ := foldlM_add_eq_error_iff.1 added
        exact .invalidPattern reads describe refused
      | ok catalog => exact .success reads describe (foldlM_add_empty_eq_ok_iff.1 added)
  · have unread : ∀ items, ¬ Reads text items := not_exists.1 readable
    have out : Outcome text _ := .unread unread
    rwa [out.eq_parse]

/-- Reading gives the outcome that the text has, and no other: an error for the list if it holds
anything but entries, whatever the patterns of the entries are; otherwise an error for the first
entry with a pattern that does not compile; and otherwise the catalog to which the entries lead when
they are added one by one. It holds one signature for each entry, in the same order. -/
theorem parse_iff_outcome (text : String) :
    (∀ result, parse text = result ↔ Outcome text result) ∧
    ∀ catalog, parse text = .ok catalog ↔
      ∃ items entries, Reads text items ∧ List.Forall₂ Describes items entries ∧
        List.Forall₂ Entry.Makes entries catalog.signatures := by
  have settled result : parse text = result ↔ Outcome text result := by
    constructor
    · rintro rfl
      exact outcome_parse text
    · exact Outcome.eq_parse
  refine ⟨settled, fun catalog => ?_⟩
  rw [settled]
  constructor
  · intro out
    cases out with
    | success reads describe chained =>
      exact ⟨_, _, reads, describe, chained_iff_makes.1 chained⟩
  · rintro ⟨items, entries, reads, describe, make⟩
    exact .success reads describe (chained_iff_makes.2 make)

/-- Two texts in a list are no entry, although they could be meant as a label and a literal. -/
theorem parse_pair_of_texts :
    Reads "[[\"a\",\"su\"]]" [.list [.ofString "a", .ofString "su"]] ∧
      parse "[[\"a\",\"su\"]]" = .error .malformed := by
  refine ⟨⟨rfl, by decide +kernel⟩, by decide +kernel⟩

end DexTriage.Catalog
