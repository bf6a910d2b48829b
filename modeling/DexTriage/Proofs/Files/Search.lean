import Mathlib
import DexTriage.CommandLine
import DexTriage.Proofs.Files.Path

/-!
# What a search finds

`Node.Below` says what stands at names below a node, and `Node.IsFound` which of it a search is after:
files with the extension on the way to which nothing is hidden. A search finds each of them once and
nothing else, in the order of the names along their paths (`Node.exists_finds`). A directory stands
for what is found below it, whatever its own name, and any other path for itself
(`Files.select_standsFor`).
-/

namespace DexTriage

namespace Node

/-- What stands at names below a node. -/
inductive Below : Node → List String → Node → Prop where
  | self {node} :
    Below node [] node
  | entry {size entries name child names node} :
    (name, child) ∈ entries →
    Below child names node →
    Below (.directory size entries) (name :: names) node

/-- A tree as a file system keeps it: the entries of a directory have names, each of them another
one. -/
structure IsTree (root : Node) : Prop where
  named : ∀ {names size entries}, root.Below names (.directory size entries) →
    ∀ name ∈ entries.map Prod.fst, Path.IsName name
  distinct : ∀ {names size entries}, root.Below names (.directory size entries) →
    (entries.map Prod.fst).Nodup

/-- A file that a search for an extension is after, where `name` is that of the root itself. -/
structure IsFound (extension name : String) (root : Node) (names : List String) (node : Node) :
    Prop where
  below : root.Below names node
  isFile : node.isDirectory = false
  visible : ∀ name ∈ names, Path.isHidden name = false
  hasExtension : Path.HasExtension extension (names.getLastD name)

/-- Every file that a search is after stands in a list once, in the order of the names. -/
structure Finds (extension name : String) (root : Node) (found : List (List String × Node)) :
    Prop where
  mem_iff : ∀ names node, (names, node) ∈ found ↔ root.IsFound extension name names node
  ascending : found.Pairwise fun a b => a.1 < b.1

/-- Induction over a tree, one directory at a time. -/
@[elab_as_elim]
theorem tree_induction {motive : Node → Prop} (node : Node)
    (leaf : ∀ node, node.isDirectory = false → motive node)
    (directory : ∀ size entries, (∀ name child, (name, child) ∈ entries → motive child) →
      motive (.directory size entries)) : motive node := by
  match node with
  | .file .. => exact leaf _ rfl
  | .unreadable .. => exact leaf _ rfl
  | .directory size entries =>
    refine directory size entries fun name child mem => ?_
    have smaller := List.sizeOf_lt_of_mem mem
    exact tree_induction child leaf directory
termination_by sizeOf node
decreasing_by
  simp only [Node.directory.sizeOf_spec, Prod.mk.sizeOf_spec] at smaller ⊢
  omega

variable {extension : String}

/-- The entries of a directory that a search looks at, in the order of their names. -/
def visited (entries : List (String × Node)) : List (String × Node) :=
  (entries.filter fun entry => !Path.isHidden entry.1).mergeSort fun a b => a.1 ≤ b.1

/-- A hidden entry is passed over, and any other one is searched under its own name. -/
lemma searchEntries_eq (extension path : String) (entries : List (String × Node)) :
    searchEntries extension path entries =
      (entries.filter fun entry => !Path.isHidden entry.1).map fun (name, child) =>
        (name, search extension (Path.join path name) name child) := by
  induction entries with
  | nil => rw [searchEntries]; rfl
  | cons entry entries ih =>
    obtain ⟨name, child⟩ := entry
    rw [searchEntries, ih]
    cases hidden : Path.isHidden name with
    | true => rw [if_pos rfl, List.filter_cons_of_neg (by simp [hidden])]
    | false => rw [if_neg (by decide), List.filter_cons_of_pos (by simp [hidden]), List.map_cons]

/-- A directory is searched entry by entry. -/
lemma search_directory (extension path name : String) (size : Nat)
    (entries : List (String × Node)) :
    search extension path name (.directory size entries) =
      (visited entries).flatMap fun (name, child) =>
        search extension (Path.join path name) name child := by
  let place : String × Node → String × List (String × Node) := fun (name, child) =>
    (name, search extension (Path.join path name) name child)
  have sorted := List.map_mergeSort (f := place) (l := entries.filter (!Path.isHidden ·.1))
    (r := (·.1 ≤ ·.1)) (s := (·.1 ≤ ·.1)) fun _ _ _ _ => rfl
  rw [search, searchEntries_eq, ← sorted, List.flatMap_map]
  rfl

/-- A node that is no directory is searched by its name alone. -/
lemma search_leaf {node : Node} (leaf : node.isDirectory = false) (extension path name : String) :
    search extension path name node =
      if Path.hasExtension extension name then [(path, node)] else [] := by
  cases node with
  | directory => cases leaf
  | file => rw [search]; rintro _ _ ⟨⟩
  | unreadable => rw [search]; rintro _ _ ⟨⟩

/-- What a search looks at is not hidden. -/
lemma mem_visited {entries : List (String × Node)} {entry : String × Node} :
    entry ∈ visited entries ↔ entry ∈ entries ∧ Path.isHidden entry.1 = false := by
  rw [visited, List.mem_mergeSort, List.mem_filter, Bool.not_eq_true']

/-- A search goes through a directory in the order of the names. -/
lemma visited_ascending {entries : List (String × Node)}
    (distinct : (entries.map Prod.fst).Nodup) :
    (visited entries).Pairwise fun a b => a.1 < b.1 := by
  have trans (a b c : String × Node) (less : decide (a.1 ≤ b.1) = true)
      (less' : decide (b.1 ≤ c.1) = true) : decide (a.1 ≤ c.1) = true :=
    decide_eq_true ((of_decide_eq_true less).trans (of_decide_eq_true less'))
  have total (a b : String × Node) : (decide (a.1 ≤ b.1) || decide (b.1 ≤ a.1)) = true := by
    rw [Bool.or_eq_true, decide_eq_true_iff, decide_eq_true_iff]
    exact le_total _ _
  have order : (visited entries).Pairwise fun a b => a.1 ≤ b.1 :=
    (List.pairwise_mergeSort trans total _).imp of_decide_eq_true
  have differ : ((visited entries).map Prod.fst).Nodup := by
    refine (((List.mergeSort_perm _ _).map _).nodup_iff).2 (distinct.sublist ?_)
    exact List.filter_sublist.map _
  exact order.imp₂ (fun _ _ => lt_of_le_of_ne) (List.pairwise_map.1 differ)

/-- An entry of a tree is a tree. -/
lemma IsTree.entry {size entries name child} (isTree : (Node.directory size entries).IsTree)
    (mem : (name, child) ∈ entries) : child.IsTree :=
  ⟨fun below => isTree.named (.entry mem below), fun below => isTree.distinct (.entry mem below)⟩

/-- A file is a tree. -/
lemma isTree_leaf {root : Node} (leaf : root.isDirectory = false) : root.IsTree where
  named below := by
    cases below with
    | self => cases leaf
    | entry => cases leaf
  distinct below := by
    cases below with
    | self => cases leaf
    | entry => cases leaf

/-- A directory is a tree if its entries have names, each of them another one, and are trees. -/
lemma isTree_directory {size entries} (named : ∀ name ∈ entries.map Prod.fst, Path.IsName name)
    (distinct : (entries.map Prod.fst).Nodup)
    (trees : ∀ name child, (name, child) ∈ entries → child.IsTree) :
    (Node.directory size entries).IsTree where
  named below := by
    cases below with
    | self => exact named
    | entry mem below => exact (trees _ _ mem).named below
  distinct below := by
    cases below with
    | self => exact distinct
    | entry mem below => exact (trees _ _ mem).distinct below

/-- The only file that is found at a file is that file. -/
lemma isFound_leaf {root : Node} (leaf : root.isDirectory = false) {name names node} :
    root.IsFound extension name names node ↔
      names = [] ∧ node = root ∧ Path.HasExtension extension name := by
  constructor
  · rintro ⟨below, isFile, visible, has⟩
    cases below with
    | self => exact ⟨rfl, rfl, has⟩
    | entry => cases leaf
  · rintro ⟨rfl, rfl, has⟩
    exact ⟨.self, leaf, fun _ mem => absurd mem List.not_mem_nil, has⟩

/-- A file that is found below a directory is found below one of its entries that is not hidden. -/
lemma isFound_directory {size entries name names node} :
    (Node.directory size entries).IsFound extension name names node ↔
      ∃ first child rest, (first, child) ∈ visited entries ∧ names = first :: rest ∧
        child.IsFound extension first rest node := by
  constructor
  · rintro ⟨below, isFile, visible, has⟩
    cases below with
    | self => cases isFile
    | @entry _ _ first child rest _ mem below =>
      obtain ⟨shown, visible⟩ := List.forall_mem_cons.1 visible
      rw [List.getLastD_cons] at has
      exact ⟨first, child, rest, mem_visited.2 ⟨mem, shown⟩, rfl, below, isFile, visible, has⟩
  · rintro ⟨first, child, rest, mem, rfl, below, isFile, visible, has⟩
    obtain ⟨mem, shown⟩ := mem_visited.1 mem
    refine ⟨.entry mem below, isFile, List.forall_mem_cons.2 ⟨shown, visible⟩, ?_⟩
    rwa [List.getLastD_cons]

/-- What is found below the entries of a directory, with their names in front. -/
def underNames (found : String → Node → List (List String × Node))
    (entries : List (String × Node)) : List (List String × Node) :=
  entries.flatMap fun (name, child) =>
    (found name child).map fun (names, node) => (name :: names, node)

/-- What is found below the entries of a directory is found below the directory. -/
lemma finds_underNames {size entries name found}
    (distinct : (entries.map Prod.fst).Nodup)
    (finds : ∀ name child, (name, child) ∈ visited entries →
      child.Finds extension name (found name child)) :
    (Node.directory size entries).Finds extension name (underNames found (visited entries)) := by
  constructor
  · intro names node
    rw [isFound_directory]
    simp only [underNames, List.mem_flatMap, List.mem_map, Prod.exists, Prod.mk.injEq]
    constructor
    · rintro ⟨first, child, mem, rest, _, mem', rfl, rfl⟩
      exact ⟨first, child, rest, mem, rfl, ((finds first child mem).mem_iff _ _).1 mem'⟩
    · rintro ⟨first, child, rest, mem, rfl, isFound⟩
      exact ⟨first, child, mem, rest, node, ((finds first child mem).mem_iff _ _).2 isFound,
        rfl, rfl⟩
  · rw [underNames, List.pairwise_flatMap]
    constructor
    · rintro ⟨first, child⟩ mem
      refine List.pairwise_map.2 ((finds first child mem).ascending.imp fun less => ?_)
      exact List.cons_lt_cons_self.2 less
    · refine (visited_ascending distinct).imp fun less => ?_
      simp only [List.mem_map]
      rintro _ ⟨file, -, rfl⟩ _ ⟨file', -, rfl⟩
      exact List.cons_lt_cons_iff.2 (.inl less)

/-- The files that a search gives are those that it is after, each under the path of its names. -/
lemma exists_finds {root : Node} (isTree : root.IsTree) (extension name : String) :
    ∃ found, root.Finds extension name found ∧
      ∀ path, search extension path name root =
        found.map fun (names, node) => (Path.below path names, node) := by
  induction root using tree_induction generalizing name with
  | leaf root leaf =>
    by_cases has : Path.HasExtension extension name
    · refine ⟨[([], root)], ⟨fun names node => ?_, List.pairwise_singleton _ _⟩, fun path => ?_⟩
      · rw [List.mem_singleton, Prod.mk.injEq, isFound_leaf leaf, and_iff_left has]
      · rw [search_leaf leaf, if_pos (Path.hasExtension_iff.2 has)]
        rfl
    · refine ⟨[], ⟨fun names node => ?_, List.Pairwise.nil⟩, fun path => ?_⟩
      · rw [isFound_leaf leaf]
        exact ⟨fun mem => absurd mem List.not_mem_nil, fun ⟨_, _, has'⟩ => absurd has' has⟩
      · rw [search_leaf leaf, if_neg (mt Path.hasExtension_iff.1 has)]
        rfl
  | directory size entries ih =>
    have each : ∀ name child, ∃ found, (name, child) ∈ visited entries →
        child.Finds extension name found ∧ ∀ path, search extension path name child =
          found.map fun (names, node) => (Path.below path names, node) := by
      intro name child
      by_cases mem : (name, child) ∈ visited entries
      · have mem' := (mem_visited.1 mem).1
        obtain ⟨found, both⟩ := ih name child mem' (isTree.entry mem') name
        exact ⟨found, fun _ => both⟩
      · exact ⟨[], fun mem' => absurd mem' mem⟩
    choose found both using each
    refine ⟨underNames found (visited entries), ?_, fun path => ?_⟩
    · exact finds_underNames (isTree.distinct .self) fun name child mem => (both name child mem).1
    · rw [search_directory, underNames, List.map_flatMap]
      refine List.flatMap_congr fun ⟨first, child⟩ mem => ?_
      rw [List.map_map]
      exact (both first child mem).2 _

/-- Whatever stands below a tree has names on the way to it. -/
lemma Below.isName {root names node} (below : Below root names node) (isTree : root.IsTree) :
    ∀ name ∈ names, Path.IsName name := by
  induction below with
  | self => exact fun _ mem => absurd mem List.not_mem_nil
  | entry mem _ ih =>
    exact List.forall_mem_cons.2
      ⟨isTree.named .self _ (List.mem_map_of_mem mem), ih (isTree.entry mem)⟩

end Node

/-- What a path stands for: a directory for the files below it that have an extension, no part of the
way to them being hidden, each once and in the order of the names along their paths; anything else
for itself. -/
inductive Files.StandsFor (files : Files) (extension : String) :
    String → List (String × Lookup) → Prop where
  | directory {path size entries chosen} :
    files path = .found (.directory size entries) →
    (∀ file lookup, (file, lookup) ∈ chosen ↔ ∃ names node,
      (Node.directory size entries).IsFound extension "" names node ∧
        file = Path.below path names ∧ lookup = .found node) →
    chosen.Pairwise (fun a b => Path.names a.1 < Path.names b.1) →
    StandsFor files extension path chosen
  | itself {path} :
    (∀ size entries, files path ≠ .found (.directory size entries)) →
    StandsFor files extension path [(path, files path)]

namespace Files

variable {files : Files} {extension : String}

/-- A directory stands for what a search finds. -/
lemma standsFor_search {path size entries} (leads : files path = .found (.directory size entries))
    (isTree : (Node.directory size entries).IsTree) :
    files.StandsFor extension path
      ((Node.search extension path "" (.directory size entries)).map fun (file, node) =>
        (file, .found node)) := by
  obtain ⟨found, finds, given⟩ := Node.exists_finds isTree extension ""
  rw [given, List.map_map]
  refine .directory leads (fun file lookup => ?_) (List.pairwise_map.2 ?_)
  · simp only [List.mem_map, Prod.exists, finds.mem_iff]
    constructor
    · rintro ⟨names, node, isFound, ⟨⟩⟩
      exact ⟨names, node, isFound, rfl, rfl⟩
    · rintro ⟨names, node, isFound, rfl, rfl⟩
      exact ⟨names, node, isFound, rfl⟩
  · refine finds.ascending.imp_of_mem fun {a b} mem mem' less => ?_
    have named := ((finds.mem_iff _ _).1 mem).below.isName isTree
    have named' := ((finds.mem_iff _ _).1 mem').below.isName isTree
    change Path.names (Path.below path a.1) < Path.names (Path.below path b.1)
    rw [Path.names_below named, Path.names_below named']
    exact List.append_left_lt less

/-- The files that paths stand for are gathered path by path, in the order of the paths. A directory
gives exactly the files below it with the extension of an image, in letters of any size, that do not
lie at or below a hidden entry, each once and in the order of the names along their paths, even if the
directory is hidden itself. Any other path gives itself, whatever it is called and whether it leads to
anything. -/
theorem select_standsFor (files : Files) (paths : List String)
    (trees : ∀ path ∈ paths, ∀ root, files path = .found root → root.IsTree) :
    ∃ parts,
      files.select CommandLine.imageExtension paths = parts.flatten ∧
      List.Forall₂ (files.StandsFor CommandLine.imageExtension) paths parts := by
  refine ⟨_, rfl, List.forall₂_map_right_iff.2 (List.forall₂_same.2 fun path mem => ?_)⟩
  split
  case h_1 size entries leads => exact standsFor_search leads (trees path mem _ leads)
  case h_2 other => exact .itself fun size entries => other size entries

/-- A hidden directory with another directory in it, and nothing else. -/
def hiddenDirectory : Files := fun path =>
  if path = ".d" then
    .found (.directory 0
      [("a-b.dex", .file 0 #[]), (".h.dex", .file 0 #[]),
        ("a", .directory 0 [("x.DEX", .file 0 #[])])])
  else .absent

/-- Whatever is found there is a tree. -/
lemma isTree_hiddenDirectory {path root} (leads : hiddenDirectory path = .found root) :
    root.IsTree := by
  rw [hiddenDirectory] at leads
  split at leads
  case isTrue =>
    cases leads
    refine Node.isTree_directory (by decide) (by decide) fun name child mem => ?_
    simp only [List.mem_cons, List.not_mem_nil, or_false, Prod.mk.injEq] at mem
    obtain ⟨-, rfl⟩ | ⟨-, rfl⟩ | ⟨-, rfl⟩ := mem
    · exact Node.isTree_leaf rfl
    · exact Node.isTree_leaf rfl
    · refine Node.isTree_directory (by decide) (by decide) fun name child mem => ?_
      obtain ⟨-, rfl⟩ := Prod.mk.inj (List.mem_singleton.1 mem)
      exact Node.isTree_leaf rfl
  case isFalse => cases leads

/-- A file two levels below a hidden directory is found, a hidden one is not, and a path that leads
to nothing stays. -/
theorem select_standsFor_hiddenDirectory :
    (".d/a/x.DEX", .found (.file 0 #[])) ∈
      hiddenDirectory.select CommandLine.imageExtension [".d", "no.dex"] ∧
    (∀ lookup, (".d/.h.dex", lookup) ∉
      hiddenDirectory.select CommandLine.imageExtension [".d", "no.dex"]) ∧
    ("no.dex", .absent) ∈
      hiddenDirectory.select CommandLine.imageExtension [".d", "no.dex"] := by
  obtain ⟨_, chosen, parts⟩ := select_standsFor hiddenDirectory [".d", "no.dex"]
    fun path _ root => isTree_hiddenDirectory
  obtain ⟨first, _, stands, rest, rfl⟩ := List.forall₂_cons_left_iff.1 parts
  obtain ⟨second, _, alone, none, rfl⟩ := List.forall₂_cons_left_iff.1 rest
  rw [List.forall₂_nil_left_iff.1 none] at chosen
  rw [chosen]
  cases alone with
  | directory leads => cases leads
  | itself =>
    cases stands with
    | itself other => exact absurd rfl (other _ _)
    | directory leads mem_iff _ =>
      cases leads
      refine ⟨List.mem_append_left _ ((mem_iff _ _).2 ?_), fun lookup mem => ?_, ?_⟩
      · refine ⟨["a", "x.DEX"], _, ⟨?_, rfl, by decide, ?_⟩, by decide, rfl⟩
        · exact .entry (.tail _ (.tail _ (.head _))) (.entry (.head _) .self)
        · exact ⟨['x'], ['D', 'E', 'X'], by decide⟩
      · simp only [List.flatten_cons, List.flatten_nil, List.append_nil, List.mem_append,
          List.mem_singleton, Prod.mk.injEq] at mem
        obtain mem | ⟨same, -⟩ := mem
        · obtain ⟨names, node, isFound, same, -⟩ := (mem_iff _ _).1 mem
          have named := isFound.below.isName (@isTree_hiddenDirectory ".d" _ rfl)
          have along := congrArg Path.names same
          have apart : Path.names ".d/.h.dex" = Path.names ".d" ++ [".h.dex"] := by
            decide +kernel
          rw [Path.names_below named, apart] at along
          rw [← List.append_cancel_left along] at isFound
          exact absurd (isFound.visible _ (.head _)) (by decide)
        · exact absurd same (by decide)
      · exact List.mem_append_right _ (.head _)

end Files

end DexTriage
