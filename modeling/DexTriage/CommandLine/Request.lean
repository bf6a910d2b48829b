import DexTriage.Limits

/-!
# Requests

A request is read from the arguments of the command line. A command comes first, and then paths and
options in any order: `--option=value`, `--option value`, `-ovalue`, `-o=value` or `-o value`. An
option must not be repeated. Behind `--` there are only paths, whatever they look like.
-/

namespace DexTriage

/-- What is asked for. -/
inductive Request where
  /-- Reports on files, as a JSON list or as text. -/
  | report (paths : List String) (json : Bool) (signatures : Option String) (jobs : Nat)
      (limits : Limits)
  /-- The texts of one image. -/
  | listing (path : String) (limits : Limits)
  deriving DecidableEq, Repr

namespace Request

/-- Why there is no request. -/
inductive Refusal where
  /-- The usage is asked for. -/
  | usage
  /-- The arguments do not make up a request. -/
  | invalid
  deriving DecidableEq, Repr

/-- A command. -/
inductive Command where
  | report
  | listing
  deriving DecidableEq, Repr

/-- The word for a command. -/
def Command.word : Command → String
  | report => "show"
  | listing => "strings"

/-- The command for a word. -/
def Command.ofWord? (word : String) : Option Command :=
  [report, listing].find? (·.word == word)

/-- What an option sets. -/
inductive Setting where
  | json
  | signatures
  | jobs
  | maxSize
  | maxStringLength
  deriving DecidableEq, Repr

namespace Setting

/-- The long name of an option. -/
def long : Setting → String
  | json => "json"
  | signatures => "signatures"
  | jobs => "jobs"
  | maxSize => "max-size"
  | maxStringLength => "max-string-len"

/-- The letter of an option that has one. -/
def letter? : Setting → Option Char
  | signatures => some 's'
  | jobs => some 'j'
  | _ => none

/-- Whether an option has a value. -/
def hasValue (setting : Setting) : Bool :=
  setting != json

end Setting

/-- The options of a command. -/
def Command.settings : Command → List Setting
  | report => [.json, .signatures, .jobs, .maxSize, .maxStringLength]
  | listing => [.maxSize, .maxStringLength]

/-- The most paths that a command takes, if there is a bound. -/
def Command.pathLimit? : Command → Option Nat
  | report => none
  | listing => some 1

/-- The number that digits spell, if there are any. -/
def digits? (chars : List Char) : Option Nat :=
  if chars.isEmpty || !chars.all Char.isDigit then none
  else some (chars.foldl (fun n c => 10 * n + (c.toNat - '0'.toNat)) 0)

/-- A number below a bound, with or without a plus sign. -/
def unsigned? (bound : Nat) (text : String) : Option Nat :=
  (match text.toList with
    | '+' :: chars => digits? chars
    | chars => digits? chars).filter (· < bound)

/-- A number below a bound, where zero may have a minus sign. -/
def signed? (bound : Nat) (text : String) : Option Nat :=
  match text.toList with
  | '-' :: chars => (digits? chars).filter (· == 0)
  | _ => unsigned? bound text

/-- What the arguments so far have set. -/
structure Draft where
  paths : List String := []
  json : Bool := false
  signatures : Option String := none
  jobs : Option Nat := none
  maxSize : Option Nat := none
  maxStringLength : Option Nat := none
  deriving DecidableEq, Repr

namespace Draft

/-- Sets what is not yet set. -/
def once {α : Type} (old : Option α) (value : Option α) : Option α :=
  if old.isSome then none else value

/-- Sets an option to a value; `none` when it has been set before, or cannot have that value. -/
def set (draft : Draft) (setting : Setting) (value : String) : Option Draft :=
  match setting with
  | .json => if draft.json then none else some { draft with json := true }
  | .signatures => do
    let path ← once draft.signatures (if value = "" then none else some value)
    return { draft with signatures := some path }
  | .jobs => do
    let jobs ← once draft.jobs (unsigned? UInt64.size value)
    return { draft with jobs := some jobs }
  | .maxSize => do
    let size ← once draft.maxSize (unsigned? UInt64.size value)
    return { draft with maxSize := some size }
  | .maxStringLength => do
    let units ← once draft.maxStringLength (signed? UInt32.size value)
    return { draft with maxStringLength := some units }

/-- Adds a path, unless it is empty or there are enough of them. -/
def addPath (command : Command) (draft : Draft) (path : String) : Option Draft :=
  if path = "" || command.pathLimit? == some draft.paths.length then none
  else some { draft with paths := draft.paths ++ [path] }

/-- The limits that are asked for. -/
def limits (draft : Draft) : Limits :=
  let standard : Limits := {}
  ⟨draft.maxSize.getD standard.fileSize, draft.maxStringLength.getD standard.stringUnits⟩

/-- The request of a command; there has to be a path. -/
def request? (command : Command) (draft : Draft) : Option Request :=
  match command, draft.paths with
  | .report, path :: paths =>
    some (.report (path :: paths) draft.json draft.signatures (draft.jobs.getD 1) draft.limits)
  | .listing, [path] => some (.listing path draft.limits)
  | _, _ => none

end Draft

/-- What the next argument may be. -/
inductive Expectation where
  /-- A path, an option or a pair of dashes. -/
  | any
  /-- The value of an option. -/
  | value (setting : Setting)
  /-- A path. -/
  | path
  deriving DecidableEq, Repr

/-- How an argument is written. -/
inductive Word where
  /-- A pair of dashes. -/
  | dashes
  /-- A pair of dashes, a name, and what stands behind an equals sign. -/
  | long (name : String) (value : Option String)
  /-- A dash, a letter, and what stands behind that and an equals sign. -/
  | short (letter : Char) (value : Option String)
  /-- Anything else, even a single dash. -/
  | plain
  deriving DecidableEq, Repr

/-- How an argument is written. -/
def Word.ofArgument (argument : String) : Word :=
  match argument.toList with
  | ['-', '-'] => .dashes
  | '-' :: '-' :: chars =>
    match chars.span (· != '=') with
    | (name, []) => .long (String.ofList name) none
    | (name, _ :: value) => .long (String.ofList name) (some (String.ofList value))
  | ['-', letter] => .short letter none
  | '-' :: letter :: '=' :: value => .short letter (some (String.ofList value))
  | '-' :: letter :: value => .short letter (some (String.ofList value))
  | _ => .plain

/-- Reads an option and its value, if that is part of the same argument. -/
def readOption (setting : Setting) (value : Option String) (draft : Draft) :
    Except Refusal (Expectation × Draft) :=
  match setting.hasValue, value with
  | true, none => .ok (.value setting, draft)
  | false, some _ => .error .invalid
  | _, value =>
    match draft.set setting (value.getD "") with
    | some draft => .ok (.any, draft)
    | none => .error .invalid

/-- Reads an argument. -/
def readArgument (command : Command) : Expectation × Draft → String →
    Except Refusal (Expectation × Draft)
  | (expectation, draft), argument =>
    let readPath (next : Expectation) : Except Refusal (Expectation × Draft) :=
      match draft.addPath command argument with
      | some draft => .ok (next, draft)
      | none => .error .invalid
    match expectation, Word.ofArgument argument with
    | .path, _ => readPath .path
    | .value setting, .plain => readOption setting (some argument) draft
    | .value _, _ => .error .invalid
    | .any, .plain => readPath .any
    | .any, .dashes => .ok (.path, draft)
    | .any, .long name value =>
      if name = "help" ∧ value = none then .error .usage
      else
        match command.settings.find? (·.long == name) with
        | some setting => readOption setting value draft
        | none => .error .invalid
    | .any, .short letter value =>
      if letter = 'h' then .error .usage
      else
        match command.settings.find? (·.letter? == some letter) with
        | some setting => readOption setting value draft
        | none => .error .invalid

/-- The request that the arguments behind a command make up. -/
def readFor (command : Command) (arguments : List String) : Except Refusal Request := do
  match ← arguments.foldlM (readArgument command) (.any, {}) with
  | (.value _, _) => .error .invalid
  | (_, draft) =>
    match draft.request? command with
    | some request => .ok request
    | none => .error .invalid

/-- Whether the arguments behind the word `help` name what help is about: nothing, a command, or
help itself. -/
def isHelpTopic : (arguments : List String) → Bool
  | [] => true
  | [word] => word == "help" || (Command.ofWord? word).isSome
  | _ => false

/-- The request that arguments make up. -/
def read : (arguments : List String) → Except Refusal Request
  | [] => .error .invalid
  | word :: arguments =>
    match Command.ofWord? word with
    | some command => readFor command arguments
    | none =>
      if word = "help" then .error (if isHelpTopic arguments then .usage else .invalid)
      else
        match Word.ofArgument word with
        | .long "help" none | .short 'h' _ => .error .usage
        | _ => .error .invalid

/-- The paths that a request needs to be followed. -/
def neededPaths : Request → List String
  | report paths _ signatures _ _ => signatures.toList ++ paths
  | listing path _ => [path]

end Request

end DexTriage
