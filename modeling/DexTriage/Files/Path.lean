/-!
# Paths

A path is a text whose components are separated by slashes. An empty component and `.` stay where
they are, `..` goes back to the directory above, and anything else is the name of an entry.
-/

namespace DexTriage.Path

/-- The stretches of a list between separators, of which there is always one more than there are
separators. -/
def split (separator : Char) (chars : List Char) : List (List Char) :=
  chars.foldr
    (fun c stretches =>
      if c = separator then [] :: stretches
      else
        match stretches with
        | [] => [[c]]
        | stretch :: others => (c :: stretch) :: others)
    [[]]

/-- The components of a path. -/
def components (path : String) : List String :=
  (split '/' path.toList).map String.ofList

/-- Whether a path starts at the root. -/
def isAbsolute (path : String) : Bool :=
  path.toList.head? == some '/'

/-- The name of the file that a path leads to; a path that ends by going back has none. -/
def fileName? (path : String) : Option String :=
  ((components path).filter fun c => c != "" && c != ".").getLast?.filter (· != "..")

/-- The path of an entry of a directory. -/
def join (directory name : String) : String :=
  if directory.toList.getLast? == some '/' then directory ++ name else directory ++ "/" ++ name

/-- What stands behind the last dot of a name. A dot that comes first does not count. -/
def extension? (name : String) : Option String :=
  match name.toList.reverse.span (· != '.') with
  | (ending, '.' :: _ :: _) => some (String.ofList ending.reverse)
  | _ => none

/-- Whether an entry is left out when a directory is searched. -/
def isHidden (name : String) : Bool :=
  name.toList.head? == some '.'

/-- Whether a name has an extension, in capital letters or small ones. -/
def hasExtension (extension name : String) : Bool :=
  match extension? name with
  | some ending => ending.toLower == extension
  | none => false

end DexTriage.Path
