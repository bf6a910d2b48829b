import DexTriage.Bytes
import DexTriage.Files.Path

/-!
# Files and directories

A tree of files and directories, what a path leads to in it, and the files that are found when a
directory is searched. Hidden entries are left out of a search, and the entries of a directory are
visited in the order of their names.
-/

namespace DexTriage

/-- Something that has a place in a tree. -/
inductive Node where
  /-- A file: the size that the system tells, and the bytes that reading it gives. -/
  | file (size : Nat) (content : Bytes)
  /-- A directory: the size that the system tells, and the named entries. -/
  | directory (size : Nat) (entries : List (String × Node))
  /-- A file that cannot be opened. -/
  | unreadable (reason : String)
  deriving Repr, Inhabited

/-- What a path leads to. -/
inductive Lookup where
  /-- There is nothing of that name. -/
  | absent
  /-- The system does not follow the path to its end. -/
  | blocked (reason : String)
  | found (node : Node)
  deriving Repr, Inhabited

/-- What every path leads to. -/
abbrev Files := String → Lookup

namespace Node

/-- Whether a node is a directory. -/
def isDirectory : Node → Bool
  | directory .. => true
  | _ => false

/-- What lies outside a tree is an empty directory. -/
def outside : Node := directory 0 []

/-- The most bytes of a name. -/
def nameLimit : Nat := 255

/-- The most bytes of a path. -/
def pathLimit : Nat := 4095

/-- What components lead to from a node, where `above` are the directories around it, the innermost
one first. -/
def follow (above : List Node) (node : Node) : (components : List String) → Lookup
  | [] => .found node
  | component :: components =>
    match node with
    | directory _ entries =>
      if component = "" ∨ component = "." then follow above node components
      else if component = ".." then
        match above with
        | [] => follow [] outside components
        | parent :: above => follow above parent components
      else if nameLimit < component.utf8ByteSize then .blocked "File name too long (os error 36)"
      else
        match entries.lookup component with
        | some entry => follow (node :: above) entry components
        | none => .absent
    | _ => .blocked "Not a directory (os error 20)"

/-- What a path leads to from a directory. -/
def lookup (node : Node) (path : String) : Lookup :=
  if path = "" then .absent
  else if path.toList.contains '\x00' then
    .blocked "file name contained an unexpected NUL byte"
  else if pathLimit < path.utf8ByteSize then .blocked "File name too long (os error 36)"
  else follow [] (if Path.isAbsolute path then outside else node) (Path.components path)

mutual

/-- The files of an extension that are found at a path, with their own paths. A file counts only if
its name has the extension. -/
def search (extension path name : String) : Node → List (String × Node)
  | directory _ entries =>
    ((searchEntries extension path entries).mergeSort fun a b => a.1 ≤ b.1).flatMap (·.2)
  | node => if Path.hasExtension extension name then [(path, node)] else []

/-- The names of the entries of a directory that are not hidden, each with the files found there. -/
def searchEntries (extension path : String) :
    List (String × Node) → List (String × List (String × Node))
  | [] => []
  | (name, node) :: entries =>
    if Path.isHidden name then searchEntries extension path entries
    else
      (name, search extension (Path.join path name) name node)
        :: searchEntries extension path entries

end

end Node

/-- The files that paths stand for: a directory stands for the files of an extension below it, and
anything else for itself. -/
def Files.select (files : Files) (extension : String) (paths : List String) :
    List (String × Lookup) :=
  paths.flatMap fun path =>
    match files path with
    | .found (.directory size entries) =>
      (Node.search extension path "" (.directory size entries)).map fun (path, node) =>
        (path, .found node)
    | other => [(path, other)]

end DexTriage
