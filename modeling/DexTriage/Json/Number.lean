/-!
# Numbers in JSON

A number is kept as it is written: sign, digits, fraction and exponent. `Number.isFinite` says
whether a reader that computes with 64-bit floating point takes it; the significand is read into 64
bits, rounded to 53 and scaled by a power of ten that is rounded as well.
-/

namespace DexTriage.Json

/-- A number as it is written. -/
structure Number where
  negative : Bool
  /-- The digits before the point. -/
  whole : List Char
  /-- The digits behind the point, if there is one. -/
  fraction : Option (List Char)
  /-- The sign and the digits of the exponent, if there is one. -/
  exponent : Option (Bool × List Char)
  deriving DecidableEq, Repr

namespace Number

/-- Whether digits can stand before the point: there is one, and a leading zero is the only one. -/
def isWhole : List Char → Bool
  | [] => false
  | ['0'] => true
  | c :: digits => c ≠ '0' && (c :: digits).all Char.isDigit

/-- The fraction at the start of a text, if one starts there, and what is left behind it. -/
def readFraction : List Char → Option (Option (List Char) × List Char)
  | '.' :: text =>
    let digits := text.takeWhile Char.isDigit
    if digits.isEmpty then none else some (some digits, text.dropWhile Char.isDigit)
  | text => some (none, text)

/-- The sign at the start of an exponent, and what is left behind it. -/
def readSign : List Char → Bool × List Char
  | '+' :: text => (false, text)
  | '-' :: text => (true, text)
  | text => (false, text)

/-- The exponent that a text consists of, if it is not empty. -/
def readExponent : List Char → Option (Option (Bool × List Char))
  | [] => some none
  | c :: text =>
    if c = 'e' || c = 'E' then
      let (negative, digits) := readSign text
      if !digits.isEmpty && digits.all Char.isDigit then some (some (negative, digits)) else none
    else
      none

/-- The number that a text spells. -/
def ofChars? (text : List Char) : Option Number := do
  let (negative, text) := match text with
    | '-' :: text => (true, text)
    | text => (false, text)
  let whole := text.takeWhile Char.isDigit
  let (fraction, rest) ← readFraction (text.dropWhile Char.isDigit)
  let exponent ← readExponent rest
  if isWhole whole then return ⟨negative, whole, fraction, exponent⟩ else none

/-- The number that digits spell. -/
def value (digits : List Char) : Nat :=
  digits.foldl (fun n c => 10 * n + (c.toNat - 48)) 0

/-- A natural number in digits. -/
def ofNat (n : Nat) : Number := ⟨false, Nat.toDigits 10 n, none, none⟩

/-- The natural number that is written without sign, point and exponent. -/
def toNat? (number : Number) : Option Nat :=
  if number.negative || number.fraction.isSome || number.exponent.isSome then none
  else some (value number.whole)

/-- Reads on digits into a significand of 64 bits, up to the first one that does not fit. Returns
the significand and the count of digits that are left. -/
def significand : (start : Nat) → List Char → Nat × Nat
  | start, [] => (start, 0)
  | start, c :: digits =>
    let next := 10 * start + (c.toNat - 48)
    if next < UInt64.size then significand next digits else (start, digits.length + 1)

/-- A natural number rounded to 53 significant bits, a half going to the even neighbour. -/
def round53 (n : Nat) : Nat :=
  if n.log2 < 53 then n
  else
    let shift := n.log2 - 52
    let upper := n >>> shift
    let rest := n - upper <<< shift
    let half := 1 <<< (shift - 1)
    let upper := if half < rest || (rest = half && upper % 2 = 1) then upper + 1 else upper
    upper <<< shift

/-- The least product that rounds to infinity. -/
def overflow : Nat := 1 <<< 1024 - 1 <<< 970

/-- Whether a significand times a power of ten stays finite. -/
def scalesFinite (significand : Nat) (exponent : Int) : Bool :=
  significand = 0 || exponent < 0
    || (exponent ≤ 308 && round53 significand * round53 (Nat.pow 10 exponent.toNat) < overflow)

/-- Whether the number stays finite when it is read as floating point. -/
def isFinite (number : Number) : Bool :=
  let (upper, dropped) := significand 0 number.whole
  let fraction := number.fraction.getD []
  let (digits, left) := significand upper fraction
  let scale : Int := dropped - (fraction.length - left)
  match number.exponent with
  | none => scalesFinite digits scale
  | some (negative, exponent) =>
    let shift := value exponent
    if 1 <<< 31 ≤ shift then digits = 0 || negative
    else scalesFinite digits (if negative then scale - shift else scale + shift)

/-- The text of a number. -/
def toChars (number : Number) : List Char :=
  (if number.negative then ['-'] else []) ++ number.whole
    ++ (match number.fraction with
      | none => []
      | some digits => '.' :: digits)
    ++ (match number.exponent with
      | none => []
      | some (negative, digits) => 'e' :: (if negative then ['-'] else []) ++ digits)

end Number

end DexTriage.Json
