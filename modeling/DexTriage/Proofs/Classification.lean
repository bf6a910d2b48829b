import Mathlib
import DexTriage.Classification.Gather
import DexTriage.Proofs.FirstSight
import DexTriage.Proofs.Url.Complete

/-!
# Findings come in the order of first sight

`Catalog.yield` says what a detector finds in a single text; of addresses, these are the candidates
that do not end with the mark of a scheme (`Url.ofText_eq`). The findings in a list of texts are the
first sights among what its texts yield, one text after the other, and going through the texts with
a collector gathers just these (`Collector.items_gather`, `Catalog.gatherAll_eq`). A label is found
where one of its signatures first matches (`Catalog.pairwise_labels`), text before text and, within
a text, signature before signature.
-/

namespace DexTriage

namespace Collector

/-- A text that comes in stands behind the others, if it is new. -/
lemma items_take (collector : Collector) (text) :
    (collector.take text).items = (collector.items ++ [text]).eraseDups := by
  rw [List.eraseDups_append, eraseDups_of_nodup collector.nodup, List.removeAll,
    List.filter_singleton, take]
  split
  next seen =>
    rw [List.elem_eq_true_of_mem ((collector.mem_seen text).1 seen)]
    exact (List.append_nil _).symm
  next new =>
    have fresh := mt (collector.mem_seen text).2 new
    rw [← List.elem_iff, Bool.not_eq_true] at fresh
    rw [fresh]
    rfl

/-- Texts that come in stand behind the others, each where it is first seen. -/
lemma items_foldl_take (collector : Collector) (texts : List String) :
    (texts.foldl take collector).items = (collector.items ++ texts).eraseDups := by
  induction texts generalizing collector with
  | nil => rw [List.foldl_nil, List.append_nil, eraseDups_of_nodup collector.nodup]
  | cons text texts ih =>
    rw [List.foldl_cons, ih, items_take, eraseDups_eraseDups_append, ← List.append_cons]

/-- A collector gathers the first sights among what the texts yield, one after the other. -/
lemma items_gather (yield : String → List String) (texts : List String) :
    (gather yield texts).items = (texts.flatMap yield).eraseDups := by
  have whole : gather yield texts = (texts.flatMap yield).foldl take empty := by
    rw [gather, List.foldl_flatMap]
  rw [whole, items_foldl_take]
  rfl

end Collector

/-- What there is to look for. -/
inductive Detector where
  | urls
  | shellCommands
  | signatures
  deriving DecidableEq, Repr

/-- The findings of a detector. -/
def Classification.of (found : Classification) : Detector → List String
  | .urls => found.urls
  | .shellCommands => found.shellCommands
  | .signatures => found.signatures

namespace Catalog

/-- What a detector finds in a single text: the addresses as they come, the text itself if it is the
name of a command, the labels of the signatures that match it as they stand in the catalog. -/
def yield (catalog : Catalog) : Detector → String → List String
  | .urls => Url.ofText
  | .shellCommands => fun text => if ShellCommand.isKnown text then [text] else []
  | .signatures => catalog.labels

/-- Where a label comes from: the positions of the texts and, within the catalog, of the signatures
that match and carry it. -/
def places (catalog : Catalog) (texts : List String) (label : String) : Set (ℕ ×ₗ ℕ) :=
  {place | ∃ text signature, texts[(ofLex place).1]? = some text ∧
    catalog.signatures[(ofLex place).2]? = some signature ∧
    signature.matcher.isMatch text = true ∧ signature.label = label}

/-- All labels with the places where they come from, in the order of these. -/
def hits (catalog : Catalog) (texts : List String) : List ((ℕ ×ₗ ℕ) × String) :=
  texts.zipIdx.flatMap fun text =>
    (catalog.signatures.zipIdx.filter fun signature => signature.1.matcher.isMatch text.1).map
      fun signature => (toLex (text.2, signature.2), signature.1.label)

variable (catalog : Catalog) (texts : List String)

/-- The places are those where the labels come from. -/
lemma mem_hits {hit} : hit ∈ catalog.hits texts ↔ hit.1 ∈ catalog.places texts hit.2 := by
  constructor
  · intro mem
    obtain ⟨⟨text, i⟩, at_text, among⟩ := List.mem_flatMap.1 mem
    obtain ⟨⟨signature, j⟩, matching, rfl⟩ := List.mem_map.1 among
    obtain ⟨at_signature, isMatch⟩ := List.mem_filter.1 matching
    exact ⟨text, signature, List.mk_mem_zipIdx_iff_getElem?.1 at_text,
      List.mk_mem_zipIdx_iff_getElem?.1 at_signature, isMatch, rfl⟩
  · obtain ⟨place, label⟩ := hit
    rintro ⟨text, signature, at_text, at_signature, isMatch, rfl⟩
    refine List.mem_flatMap.2 ⟨_, List.mk_mem_zipIdx_iff_getElem?.2 at_text, List.mem_map.2 ?_⟩
    exact ⟨_, List.mem_filter.2 ⟨List.mk_mem_zipIdx_iff_getElem?.2 at_signature, isMatch⟩, rfl⟩

/-- Without their places, the labels are what the texts yield. -/
lemma map_hits : (catalog.hits texts).map Prod.snd = texts.flatMap catalog.labels := by
  have labels (text : String) :
      ((catalog.signatures.zipIdx.filter fun signature => signature.1.matcher.isMatch text).map
        fun signature => signature.1.label) = catalog.labels text := by
    have without := List.zipIdx_map_fst 0 catalog.signatures
    conv_rhs => rw [Catalog.labels, ← without, List.filter_map, List.map_map]
    rfl
  have without := List.zipIdx_map_fst 0 texts
  conv_rhs => rw [← without, List.flatMap_map]
  rw [hits, List.map_flatMap]
  refine List.flatMap_congr fun text _ => ?_
  rw [List.map_map, ← labels]
  rfl

/-- Positions go up. -/
lemma pairwise_zipIdx {α : Type*} (items : List α) :
    items.zipIdx.Pairwise fun item later => item.2 < later.2 := by
  rw [← List.pairwise_map, List.zipIdx_map_snd]
  exact List.pairwise_lt_range'

/-- The places are in order. -/
lemma pairwise_hits : (catalog.hits texts).Pairwise fun hit later => hit.1 < later.1 := by
  rw [hits, List.pairwise_flatMap]
  refine ⟨fun text _ => ?_, ?_⟩
  · rw [List.pairwise_map]
    refine ((pairwise_zipIdx _).filter _).imp fun earlier => ?_
    exact Prod.Lex.toLex_lt_toLex.2 (.inr ⟨rfl, earlier⟩)
  · refine (pairwise_zipIdx texts).imp fun earlier hit mem later mem' => ?_
    obtain ⟨_, -, rfl⟩ := List.mem_map.1 mem
    obtain ⟨_, -, rfl⟩ := List.mem_map.1 mem'
    exact Prod.Lex.toLex_lt_toLex.2 (.inl earlier)

/-- The labels are found in the order of their first places. -/
lemma pairwise_labels : (catalog.find texts).Pairwise fun earlier later =>
    ∃ place place', IsLeast (catalog.places texts earlier) place ∧
      IsLeast (catalog.places texts later) place' ∧ place < place' := by
  have least {label} (mem : label ∈ catalog.find texts) :
      ∃ place, IsLeast (catalog.places texts label) place := by
    rw [find, List.mem_eraseDups, ← map_hits] at mem
    obtain ⟨hit, among, rfl⟩ := List.mem_map.1 mem
    have some_place : (catalog.places texts hit.2).Nonempty := ⟨_, (mem_hits _ _).1 among⟩
    exact ⟨wellFounded_lt.min _ some_place, wellFounded_lt.min_mem _ _,
      fun place mem => wellFounded_lt.min_le mem⟩
  have ordered : (catalog.find texts).Pairwise fun earlier later =>
      ∃ hit ∈ catalog.hits texts, hit.2 = earlier ∧
        ∀ other ∈ catalog.hits texts, other.2 = later → hit.1 < other.1 := by
    rw [find, ← map_hits]
    exact pairwise_eraseDups_map Prod.snd (pairwise_hits catalog texts)
  refine ordered.imp_of_mem fun mem mem' ⟨hit, among, eq, before⟩ => ?_
  obtain ⟨place, first⟩ := least mem
  obtain ⟨place', first'⟩ := least mem'
  subst eq
  refine ⟨place, place', first, first', ?_⟩
  calc place ≤ hit.1 := first.2 ((mem_hits _ _).1 among)
    _ < place' := before (place', _) ((mem_hits _ _).2 first'.1) rfl

/-- The findings are the first sights among what the texts yield. -/
lemma of_classify (detector) : (catalog.classify texts).of detector =
    (texts.flatMap (catalog.yield detector)).eraseDups := by
  cases detector with
  | urls => rfl
  | signatures => rfl
  | shellCommands =>
    have yields (text : String) : catalog.yield .shellCommands text =
        (Option.guard ShellCommand.isKnown text).toList := by
      simp only [yield, Option.guard]
      split <;> rfl
    rw [List.flatMap_congr fun text _ => yields text, ← List.filterMap_eq_flatMap_toList,
      List.filterMap_eq_filter]
    rfl

/-- A collector gathers the findings; a catalog without signatures would yield no label anyway. -/
lemma gatherAll_eq : catalog.gatherAll texts = catalog.classify texts := by
  have urls : Url.gather texts = Url.find texts := Collector.items_gather _ _
  have shellCommands : ShellCommand.gather texts = ShellCommand.find texts := by
    rw [ShellCommand.gather, Collector.items_gather, List.flatMap_singleton']
    rfl
  have signatures : catalog.gather texts = catalog.find texts := by
    rw [gather]
    split
    next empty =>
      have labels (text : String) : catalog.labels text = [] := by
        rw [labels, List.isEmpty_iff.1 empty]
        rfl
      rw [find, List.flatMap_congr fun text _ => labels text,
        List.flatMap_eq_nil_iff.2 fun _ _ => rfl]
      rfl
    next => exact Collector.items_gather _ _
  rw [gatherAll, classify, urls, shellCommands, signatures]

/-- The commands that are found are the texts that are one of the known names. -/
lemma mem_shellCommands {command} : command ∈ (catalog.classify texts).shellCommands ↔
    command ∈ texts ∧ command ∈ ShellCommand.names := by
  rw [classify, ShellCommand.find, List.mem_eraseDups, List.mem_filter, ShellCommand.isKnown,
    List.contains_iff_mem]

/-- The labels that are found are those of the signatures that match. -/
lemma mem_find {label} : label ∈ catalog.find texts ↔ ∃ text ∈ texts,
    ∃ signature ∈ catalog.signatures, signature.matcher.isMatch text = true ∧
      signature.label = label := by
  rw [find, List.mem_eraseDups, List.mem_flatMap]
  refine exists_congr fun text => and_congr_right fun _ => ?_
  rw [labels, List.mem_map]
  exact exists_congr fun signature => by rw [List.mem_filter, and_assoc]

/-- The collectors gather what the texts yield, one after the other, each finding where it is first
seen. So no finding is repeated, more texts only add findings behind the others, and which findings
there are does not depend on the order of the texts or on how often each comes. A text yields the
addresses among its candidates as they come, and a command if it is one as a whole. A label is found
if and only if a signature that carries it matches some text, and labels are in the order of the
first places where this happens. -/
theorem classify_firstSights (catalog : Catalog) (texts : List String) :
    catalog.gatherAll texts = catalog.classify texts ∧
    (∀ detector,
      (catalog.classify texts).of detector =
        (texts.flatMap (catalog.yield detector)).eraseDups ∧
      ((catalog.classify texts).of detector).Nodup ∧
      (∀ more,
        (catalog.classify texts).of detector <+: (catalog.classify (texts ++ more)).of detector ∧
        (catalog.classify (texts ++ more)).of detector =
          ((catalog.classify texts).of detector ++
            (catalog.classify more).of detector).eraseDups) ∧
      ∀ others : List String, (∀ text, text ∈ others ↔ text ∈ texts) →
        ∀ finding, finding ∈ (catalog.classify others).of detector ↔
          finding ∈ (catalog.classify texts).of detector) ∧
    (∀ text, catalog.yield .urls text =
      ((Url.candidates text).filter fun url => !Url.schemeMark.toList.isSuffixOf url).map
        String.ofList) ∧
    (∀ command, command ∈ (catalog.classify texts).shellCommands ↔
      command ∈ texts ∧ command ∈ ShellCommand.names) ∧
    (∀ label, label ∈ (catalog.classify texts).signatures ↔ ∃ text ∈ texts,
      ∃ signature ∈ catalog.signatures, signature.matcher.isMatch text = true ∧
        signature.label = label) ∧
    (catalog.classify texts).signatures.Pairwise fun earlier later =>
      ∃ place place', IsLeast (catalog.places texts earlier) place ∧
        IsLeast (catalog.places texts later) place' ∧ place < place' := by
  refine ⟨gatherAll_eq catalog texts, fun detector => ?_, Url.ofText_eq,
    fun command => mem_shellCommands catalog texts, fun label => mem_find catalog texts,
    pairwise_labels catalog texts⟩
  simp only [of_classify]
  refine ⟨trivial, nodup_eraseDups _, fun more => ?_, fun others same finding => ?_⟩
  · rw [List.flatMap_append]
    exact ⟨eraseDups_prefix_append _ _, eraseDups_append_eraseDups _ _⟩
  · simp only [List.mem_eraseDups, List.mem_flatMap, same]

/-- Two signatures share a label. The findings change places with the texts. -/
theorem classify_swapped :
    let catalog : Catalog := ⟨[⟨"b", .literal "x"⟩, ⟨"a", .literal "y"⟩, ⟨"b", .literal "y"⟩]⟩
    let texts := ["su", "ws://b.example", "x", "id", "ftp://a.example,ws://b.example", "y"]
    catalog.find ["y", "x", "y"] = ["a", "b"] ∧ catalog.find ["x", "y"] = ["b", "a"] ∧
      (∀ label, label ∈ (catalog.classify ["y", "x", "y"]).of .signatures ↔
        label ∈ (catalog.classify ["x", "y"]).of .signatures) ∧
      catalog.gatherAll texts =
        ⟨["ws://b.example", "ftp://a.example"], ["su", "id"], ["b", "a"]⟩ ∧
      catalog.gatherAll texts.reverse =
        ⟨["ftp://a.example", "ws://b.example"], ["id", "su"], ["a", "b"]⟩ ∧
      ∀ detector finding, finding ∈ (catalog.classify texts.reverse).of detector ↔
        finding ∈ (catalog.classify texts).of detector := by
  intro catalog texts
  obtain ⟨-, findings, -⟩ := classify_firstSights catalog ["x", "y"]
  obtain ⟨-, -, -, same⟩ := findings .signatures
  obtain ⟨gathered, findings', -⟩ := classify_firstSights catalog texts
  obtain ⟨gathered', -⟩ := classify_firstSights catalog texts.reverse
  refine ⟨by decide, by decide, same ["y", "x", "y"] (by simp), ?_, ?_, fun detector => ?_⟩
  · rw [gathered]
    decide +kernel
  · rw [gathered']
    decide +kernel
  · obtain ⟨-, -, -, same'⟩ := findings' detector
    exact same' texts.reverse fun text => List.mem_reverse

end Catalog

end DexTriage
