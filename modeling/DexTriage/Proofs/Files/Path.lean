import Mathlib
import DexTriage.Files.Path

/-!
# Names along a path

The names along a path are its components without the empty ones, so that a slash at the end of a
path adds nothing to them. Joining the name of an entry to the path of a directory adds that name
(`names_join`). `HasFileName` says what the name of a file is without cutting the path into
components, and `HasExtension` what an extension is without looking for the last dot.
-/

namespace DexTriage.Path

/-- What an entry of a directory can be called. -/
structure IsName (name : String) : Prop where
  nonempty : name ≠ ""
  unseparated : '/' ∉ name.toList

instance (name : String) : Decidable (IsName name) :=
  decidable_of_iff (name ≠ "" ∧ '/' ∉ name.toList)
    ⟨fun ⟨nonempty, unseparated⟩ => ⟨nonempty, unseparated⟩,
      fun ⟨nonempty, unseparated⟩ => ⟨nonempty, unseparated⟩⟩

/-- The names along a path. -/
def names (path : String) : List String :=
  (components path).filter (· ≠ "")

/-- The path of what stands at names below a directory. -/
def below (directory : String) (names : List String) : String :=
  names.foldl join directory

/-- A separator ends an empty stretch. -/
lemma split_cons_self (separator : Char) (chars : List Char) :
    split separator (separator :: chars) = [] :: split separator chars := by
  rw [split, List.foldr_cons, if_pos rfl]
  rfl

/-- Any other character belongs to the first stretch. -/
lemma split_cons_of_ne {separator c : Char} {chars stretch : List Char} {others}
    (other : c ≠ separator) (first : split separator chars = stretch :: others) :
    split separator (c :: chars) = (c :: stretch) :: others := by
  rw [split] at first ⊢
  rw [List.foldr_cons, if_neg other, first]

/-- There is always a stretch. -/
lemma exists_split_eq_cons (separator : Char) (chars : List Char) :
    ∃ stretch others, split separator chars = stretch :: others := by
  induction chars with
  | nil => exact ⟨[], [], rfl⟩
  | cons c chars ih =>
    obtain ⟨stretch, others, first⟩ := ih
    by_cases same : c = separator
    · subst same
      exact ⟨_, _, split_cons_self c chars⟩
    · exact ⟨_, _, split_cons_of_ne same first⟩

/-- A list without separators is a single stretch. -/
lemma split_of_not_mem {separator : Char} {chars : List Char} (none : separator ∉ chars) :
    split separator chars = [chars] := by
  induction chars with
  | nil => rfl
  | cons c chars ih =>
    obtain ⟨other, none⟩ := not_or.1 (mt List.mem_cons.2 none)
    exact split_cons_of_ne (Ne.symm other) (ih none)

/-- The stretches on both sides of a separator. -/
lemma split_append_cons (separator : Char) (before behind : List Char) :
    split separator (before ++ separator :: behind) =
      split separator before ++ split separator behind := by
  induction before with
  | nil => exact split_cons_self separator behind
  | cons c before ih =>
    rw [List.cons_append]
    by_cases same : c = separator
    · subst same
      rw [split_cons_self, split_cons_self, ih, List.cons_append]
    · obtain ⟨stretch, others, first⟩ := exists_split_eq_cons separator before
      rw [first, List.cons_append] at ih
      rw [split_cons_of_ne same ih, split_cons_of_ne same first, List.cons_append]

/-- The components of a path up to a slash, and behind it. -/
lemma components_append_slash (directory name : String) :
    components (directory ++ "/" ++ name) = components directory ++ components name := by
  have chars : (directory ++ "/" ++ name).toList = directory.toList ++ '/' :: name.toList := by
    rw [String.toList_append, String.toList_append, List.append_assoc]
    rfl
  rw [components, chars, split_append_cons, List.map_append]
  rfl

/-- A name is its own and only component. -/
lemma IsName.components_eq {name : String} (isName : IsName name) : components name = [name] := by
  rw [components, split_of_not_mem isName.unseparated, List.map_singleton, String.ofList_toList]

/-- The names along a path up to a slash, and the name behind it. -/
lemma IsName.names_append_slash {name : String} (isName : IsName name) (directory : String) :
    names (directory ++ "/" ++ name) = names directory ++ [name] := by
  rw [names, components_append_slash, isName.components_eq, List.filter_append]
  exact congrArg (names directory ++ ·) (List.filter_cons_of_pos (decide_eq_true isName.nonempty))

/-- A slash at the end adds no name. -/
lemma names_slash (directory : String) : names (directory ++ "/") = names directory := by
  have split := components_append_slash directory ""
  rw [String.append_empty] at split
  rw [names, split, List.filter_append]
  exact List.append_nil _

/-- The path of an entry has one more name than that of its directory. -/
lemma names_join {name : String} (isName : IsName name) (directory : String) :
    names (join directory name) = names directory ++ [name] := by
  rw [join]
  split
  case isTrue slash =>
    obtain ⟨chars, ends⟩ := List.getLast?_eq_some_iff.1 (beq_iff_eq.1 slash)
    obtain rfl : directory = String.ofList chars ++ "/" := by
      rw [← String.toList_inj, String.toList_append, String.toList_ofList, ends]
      rfl
    rw [isName.names_append_slash, names_slash]
  case isFalse => exact isName.names_append_slash directory

/-- The path of what stands at names below a directory has those names behind its own. -/
lemma names_below {names : List String} (areNames : ∀ name ∈ names, IsName name)
    (directory : String) : Path.names (below directory names) = Path.names directory ++ names := by
  induction names generalizing directory with
  | nil => exact (List.append_nil _).symm
  | cons name names ih =>
    obtain ⟨isName, areNames⟩ := List.forall_mem_cons.1 areNames
    rw [below, List.foldl_cons, ← below, ih areNames, names_join isName, List.append_assoc,
      List.singleton_append]

/-! ## The name of a file -/

/-- A name comes last in a path: behind it there are only slashes, with or without dots. -/
inductive ComesLast (name : String) : (path : String) → Prop where
  | alone :
    ComesLast name name
  | within {directory} :
    ComesLast name (directory ++ "/" ++ name)
  | slash {path} :
    ComesLast name path →
    ComesLast name (path ++ "/")
  | dot {path} :
    ComesLast name path →
    ComesLast name (path ++ "/.")

/-- The name of the file that a path leads to is the last one that stands for an entry. -/
structure HasFileName (path name : String) : Prop where
  isName : IsName name
  ne_here : name ≠ "."
  ne_above : name ≠ ".."
  comesLast : ComesLast name path

/-- The last component of a path is the whole of it, or stands behind a slash. -/
lemma of_components_concat {path last : String} {row : List String}
    (concat : components path = row ++ [last]) :
    (row = [] ∧ path = last) ∨
      ∃ directory, path = directory ++ "/" ++ last ∧ components directory = row := by
  by_cases slash : '/' ∈ path.toList
  · -- The last slash of a path is the first one of the reversed path.
    obtain ⟨upper, lower, chars, none⟩ := List.eq_append_cons_of_mem (List.mem_reverse.2 slash)
    have whole : path = String.ofList lower.reverse ++ "/" ++ String.ofList upper.reverse := by
      rw [← String.toList_inj, ← List.reverse_inj, chars]
      simp
    have isLast : components (String.ofList upper.reverse) = [String.ofList upper.reverse] := by
      rw [components, String.toList_ofList, split_of_not_mem (mt List.mem_reverse.1 none)]
      rfl
    rw [whole, components_append_slash, isLast] at concat
    obtain ⟨same, last⟩ := List.append_inj' concat rfl
    exact .inr ⟨_, whole.trans (congrArg _ (List.singleton_inj.1 last)), same⟩
  · rw [components, split_of_not_mem slash, List.map_singleton, String.ofList_toList] at concat
    obtain ⟨same, last⟩ := List.append_inj' ((List.nil_append _).trans concat) rfl
    exact .inl ⟨same.symm, List.singleton_inj.1 last⟩

/-- Behind a name that comes last there are only components without a meaning. -/
lemma comesLast_iff {path name : String} (isName : IsName name) :
    ComesLast name path ↔
      ∃ before behind, components path = before ++ name :: behind ∧
        ∀ c ∈ behind, c = "" ∨ c = "." := by
  constructor
  · intro last
    induction last with
    | alone => exact ⟨[], [], isName.components_eq, nofun⟩
    | @within directory =>
      refine ⟨components directory, [], ?_, nofun⟩
      rw [components_append_slash, isName.components_eq]
    | @slash path _ ih =>
      obtain ⟨before, behind, row, idle⟩ := ih
      refine ⟨before, behind ++ [""], ?_, List.forall_mem_append.2 ⟨idle, by simp⟩⟩
      have split := components_append_slash path ""
      rw [String.append_empty, row] at split
      rw [split, List.append_assoc]
      rfl
    | @dot path _ ih =>
      obtain ⟨before, behind, row, idle⟩ := ih
      refine ⟨before, behind ++ ["."], ?_, List.forall_mem_append.2 ⟨idle, by simp⟩⟩
      have split := components_append_slash path "."
      rw [String.append_assoc, row] at split
      exact split.trans (List.append_assoc ..)
  · rintro ⟨before, behind, row, idle⟩
    induction behind using List.reverseRecOn generalizing path with
    | nil =>
      obtain ⟨-, rfl⟩ | ⟨directory, rfl, -⟩ := of_components_concat row
      · exact .alone
      · exact .within
    | append_singleton behind c ih =>
      obtain ⟨idle, none⟩ := List.forall_mem_append.1 idle
      rw [← List.cons_append, ← List.append_assoc] at row
      obtain ⟨impossible, -⟩ | ⟨directory, rfl, above⟩ := of_components_concat row
      · exact absurd impossible (by simp)
      · have last := ih above idle
        obtain rfl | rfl := none c (List.mem_singleton_self c)
        · rw [String.append_empty]
          exact last.slash
        · rw [String.append_assoc]
          exact last.dot

/-- No stretch holds a separator. -/
lemma not_mem_of_mem_split {separator : Char} {chars stretch : List Char}
    (mem : stretch ∈ split separator chars) : separator ∉ stretch := by
  induction chars generalizing stretch with
  | nil =>
    rw [List.mem_singleton.1 mem]
    exact List.not_mem_nil
  | cons c chars ih =>
    by_cases same : c = separator
    · subst same
      rw [split_cons_self] at mem
      obtain rfl | mem := List.mem_cons.1 mem
      · exact List.not_mem_nil
      · exact ih mem
    · obtain ⟨first, others, cut⟩ := exists_split_eq_cons separator chars
      rw [split_cons_of_ne same cut] at mem
      rw [cut] at ih
      obtain rfl | mem := List.mem_cons.1 mem
      · exact List.not_mem_cons_of_ne_of_not_mem (Ne.symm same) (ih List.mem_cons_self)
      · exact ih (List.mem_cons_of_mem _ mem)

/-- A component that is not empty is a name. -/
lemma isName_of_mem_components {path name : String} (mem : name ∈ components path)
    (nonempty : name ≠ "") : IsName name := by
  obtain ⟨stretch, cut, rfl⟩ := List.mem_map.1 mem
  refine ⟨nonempty, ?_⟩
  rw [String.toList_ofList]
  exact not_mem_of_mem_split cut

/-- The name that is found is the one that the path has. -/
lemma fileName?_eq_some_iff {path name : String} :
    fileName? path = some name ↔ HasFileName path name := by
  rw [fileName?, Option.filter_eq_some_iff, List.getLast?_eq_some_iff, bne_iff_ne]
  constructor
  · rintro ⟨⟨names, last⟩, ne_above⟩
    obtain ⟨before, behind, row, -, last⟩ := List.filter_eq_append_iff.1 last
    obtain ⟨idle, rest, rfl, -, proper, none⟩ := List.filter_eq_cons_iff.1 last
    obtain ⟨nonempty, ne_here⟩ : name ≠ "" ∧ name ≠ "." := by simpa using proper
    have mem : name ∈ components path := by simp [row]
    have isName := isName_of_mem_components mem nonempty
    refine ⟨isName, ne_here, ne_above, (comesLast_iff isName).2 ⟨before ++ idle, rest, ?_, ?_⟩⟩
    · rw [row, List.append_assoc]
    · simpa [List.filter_eq_nil_iff, or_iff_not_imp_left] using none
  · rintro ⟨isName, ne_here, ne_above, last⟩
    obtain ⟨before, behind, row, idle⟩ := (comesLast_iff isName).1 last
    refine ⟨⟨before.filter fun c => c != "" && c != ".", ?_⟩, ne_above⟩
    have none : behind.filter (fun c => c != "" && c != ".") = [] := by
      simpa [List.filter_eq_nil_iff, or_iff_not_imp_left] using idle
    rw [row, List.filter_append, List.filter_cons_of_pos (by simp [isName.nonempty, ne_here]), none]

/-- A name ends in a dot and an extension, in capital letters or small ones, and does not begin with
that dot. -/
def HasExtension (extension name : String) : Prop :=
  ∃ stem ending : List Char, stem ≠ [] ∧ name.toList = stem ++ '.' :: ending ∧ '.' ∉ ending ∧
    ending.map Char.toLower = extension.toList

/-- The extension of a name is what stands behind its last dot, if anything stands before it. -/
lemma extension?_eq_some_iff {name ending : String} :
    extension? name = some ending ↔
      ∃ stem, stem ≠ [] ∧ name.toList = stem ++ '.' :: ending.toList ∧ '.' ∉ ending.toList := by
  rw [extension?, List.span_eq_takeWhile_dropWhile]
  constructor
  · intro found
    split at found
    case h_1 upper c lower last =>
      obtain ⟨taken, dropped⟩ := Prod.mk.inj last
      have whole := List.takeWhile_append_dropWhile (p := (· != '.')) (l := name.toList.reverse)
      have plain : '.' ∉ upper := by
        intro mem
        rw [← taken] at mem
        exact absurd (List.mem_takeWhile_imp mem) (by decide)
      cases found
      refine ⟨(c :: lower).reverse, by simp, ?_, by simpa using plain⟩
      rw [String.toList_ofList, ← List.reverse_inj, ← whole, taken, dropped]
      simp
    case h_2 => cases found
  · rintro ⟨stem, some, chars, none⟩
    obtain ⟨c, lower, first⟩ := List.exists_cons_of_ne_nil (mt List.reverse_eq_nil_iff.1 some)
    have plain : ∀ c ∈ ending.toList.reverse, (c != '.') = true := by
      intro c mem
      refine bne_iff_ne.2 fun same => none ?_
      rwa [← same, ← List.mem_reverse]
    rw [chars, List.reverse_append, List.reverse_cons, first, List.append_assoc,
      List.takeWhile_append_of_pos plain, List.dropWhile_append_of_pos plain]
    simp

/-- A name has an extension if it ends in that, whatever the size of the letters. -/
lemma hasExtension_iff {extension name : String} :
    hasExtension extension name = true ↔ HasExtension extension name := by
  have lower {ending : String} : (ending.toLower == extension) = true ↔
      ending.toList.map Char.toLower = extension.toList := by
    rw [beq_iff_eq, ← String.toList_inj, String.toLower, String.toList_map]
  rw [hasExtension]
  constructor
  · intro has
    split at has
    case h_1 ending found =>
      obtain ⟨stem, some, chars, none⟩ := extension?_eq_some_iff.1 found
      exact ⟨stem, ending.toList, some, chars, none, lower.1 has⟩
    case h_2 => cases has
  · rintro ⟨stem, ending, some, chars, none, same⟩
    rw [← String.toList_ofList (l := ending)] at chars none same
    rw [extension?_eq_some_iff.2 ⟨stem, some, chars, none⟩]
    exact lower.2 same

end DexTriage.Path
