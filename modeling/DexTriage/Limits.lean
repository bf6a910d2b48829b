import DexTriage.Image
import DexTriage.Json.Value

/-!
# Limits

How large a file may be and how long a text, with a value for each unless told otherwise. Limits
are read from JSON: an object with any of the two members, or a list of up to two numbers. What an
unknown member holds does not matter.
-/

namespace DexTriage

/-- Limits on what is read. -/
structure Limits where
  /-- The most bytes of a file. -/
  fileSize : Nat := 128 <<< 20
  /-- The most code units of a text. -/
  stringUnits : Nat := defaultStringLimit
  deriving DecidableEq, Repr, Inhabited

namespace Limits

/-- The number below a bound that a JSON value is. -/
def number? (bound : Nat) : Json → Option Nat
  | .number n => n.toNat?.filter (· < bound)
  | _ => none

/-- The key of the limit on files. -/
def fileSizeKey : String := "max_file_size"

/-- The key of the limit on texts. -/
def stringUnitsKey : String := "max_string_code_units"

/-- The number that a member with the given key holds, or `default` without one; a key must not be
repeated. -/
def member? (bound default : Nat) (key : String) (members : List (Json.Content × Json)) :
    Option Nat :=
  match members.filter fun member => member.1 == some key with
  | [] => some default
  | [(_, value)] => number? bound value
  | _ => none

/-- The limits that a JSON value describes. -/
def ofJson? : Json → Option Limits
  | .object members => do
    if members.any fun member => member.1.isNone then none
    let standard : Limits := {}
    return ⟨← member? UInt64.size standard.fileSize fileSizeKey members,
      ← member? UInt32.size standard.stringUnits stringUnitsKey members⟩
  | .list [] => some {}
  | .list [size] => do return { fileSize := ← number? UInt64.size size }
  | .list [size, units] => do return ⟨← number? UInt64.size size, ← number? UInt32.size units⟩
  | _ => none

/-- The limits that a JSON text describes. -/
def parse? (text : String) : Option Limits := do
  ofJson? (← Json.parse? text)

end Limits

end DexTriage
