import DexTriage.CommandLine

/-!
# The program

Fetches from the disk what the paths of a request lead to, and prints what the request leaves. No
more is read than a report needs: of a file one byte beyond the limit, and of a directory the
entries that a search looks at.
-/

namespace DexTriage.CommandLine

/-- The wording of what the system says. -/
def systemMessage : IO.Error → String
  | .permissionDenied .. => "Permission denied (os error 13)"
  | error => toString error

/-- Reads until a file ends or there are more bytes than a limit. -/
partial def readBeyond (limit : Nat) (handle : IO.FS.Handle) (content : ByteArray) :
    IO ByteArray := do
  if limit < content.size then return content
  let more ← handle.read (USize.ofNat (min (limit + 1 - content.size) (1 <<< 20)))
  if more.isEmpty then return content
  readBeyond limit handle (content ++ more)

/-- The file at a path. -/
def fetchFile (limit : Nat) (path : String) (size : Nat) : IO Node := do
  if limit < size then return .file size #[]
  try
    let handle ← IO.FS.Handle.mk path .read
    return .file size (← readBeyond limit handle ByteArray.empty).data
  catch error => return .unreadable (systemMessage error)

mutual

/-- The entries of the directory at a path. A directory that cannot be listed has none. -/
partial def fetchEntries (limit : Nat) (path : String) : IO (List (String × Node)) := do
  let place := (← IO.currentDir) / path
  let entries ← try place.readDir catch _ => pure #[]
  return (← entries.mapM (fetchEntry limit path)).toList.filterMap id

/-- An entry of the directory at a path, if a search looks at it: a file with the extension of an
image, or a directory that is no link to another. -/
partial def fetchEntry (limit : Nat) (path : String) (entry : IO.FS.DirEntry) :
    IO (Option (String × Node)) := do
  let name := entry.fileName
  if Path.isHidden name then return none
  try
    let status ← entry.path.metadata
    let size := status.byteSize.toNat
    let below := Path.join path name
    if status.type == .dir then
      if (← entry.path.symlinkMetadata).type == .symlink then return none
      return some (name, .directory size (← fetchEntries limit below))
    if status.type == .file && Path.hasExtension imageExtension name then
      return some (name, ← fetchFile limit below size)
    return none
  catch _ => return none

end

/-- What a path leads to. -/
def fetch (limit : Nat) (path : String) : IO Lookup := do
  if path = "" then return .absent
  let place := (← IO.currentDir) / path
  try
    let status ← place.metadata
    let size := status.byteSize.toNat
    if status.type == .dir then return .found (.directory size (← fetchEntries limit path))
    return .found (← fetchFile limit path size)
  catch error =>
    match error with
    | .noFileOrDirectory .. => return .absent
    | _ => return .blocked (systemMessage error)

/-- How many bytes of the file at a path are needed: signatures are read as a whole. -/
def bytesNeeded (request : Request) (path : String) : Nat :=
  match request with
  | .report _ _ signatures _ limits =>
    if signatures == some path then UInt64.size - 1 else limits.fileSize
  | .listing _ limits => limits.fileSize

/-- What the paths of a request lead to. -/
def fetchAll (request : Request) : IO Files := do
  let found ← request.neededPaths.mapM fun path => do
    return (path, ← fetch (bytesNeeded request path) path)
  return fun path => (found.lookup path).getD .absent

end DexTriage.CommandLine

open DexTriage in
/-- Runs the program. -/
def main (arguments : List String) : IO UInt32 := do
  let files ←
    match Request.read arguments with
    | .ok request => CommandLine.fetchAll request
    | .error _ => pure fun _ => .absent
  let outcome := CommandLine.run files arguments
  (← IO.getStdout).putStr outcome.stdout
  (← IO.getStderr).putStr outcome.stderr
  return UInt32.ofNat outcome.code
