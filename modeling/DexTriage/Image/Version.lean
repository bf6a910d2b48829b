import DexTriage.Image.Error

/-!
# Versions of the image format

An image starts with its version: `dex` and a line feed, three digits, and a zero byte.
`Version.ofMagic?` accepts exactly what `Version.magic` writes.
-/

namespace DexTriage

/-- The versions of the format that are known. -/
inductive Version where
  | v35
  | v36
  | v37
  | v38
  | v39
  | v40
  | v41
  deriving DecidableEq, Repr, Inhabited

namespace Version

/-- The known versions, oldest first. -/
def all : List Version := [v35, v36, v37, v38, v39, v40, v41]

/-- The number of a version. -/
def number : Version → Nat
  | v35 => 35
  | v36 => 36
  | v37 => 37
  | v38 => 38
  | v39 => 39
  | v40 => 40
  | v41 => 41

/-- The two digits of a version, the first one as the upper byte. -/
def code (version : Version) : Nat :=
  256 * (48 + version.number / 10) + (48 + version.number % 10)

/-- The version with the given two digits. -/
def ofCode (code : UInt16) : Except ImageError Version :=
  match all.find? fun version => version.code == code.toNat with
  | some version => .ok version
  | none => .error (.invalidMagic (toBigEndian 2 code.toNat))

/-- The eight bytes that an image of a version starts with. -/
def magic (version : Version) : List UInt8 :=
  [0x64, 0x65, 0x78, 0x0A, 0x30] ++ toBigEndian 2 version.code ++ [0x00]

/-- The version that the first eight bytes of an image name. -/
def ofMagic? (bytes : List UInt8) : Option Version :=
  all.find? fun version => version.magic == bytes

theorem ofMagic?_magic (version : Version) : ofMagic? version.magic = some version := by
  cases version <;> decide

end Version

end DexTriage
