import Mathlib
import DexTriage.Digest.Adler32

/-!
# What Adler-32 tells apart

Both sums stay below the modulus (`Sums.Reduced`). The same byte takes different sums to different
sums (`step_injective`), so that what is behind a change cannot undo it, and two bytes in a row can
be told from the sums that they lead to (`eq_of_foldl_step_eq`): a change of the first byte shows in
the second sum, whatever the second byte makes of the first sum. So lists of the same length that
differ in two neighbouring bytes at most have different checksums (`eq_of_checksum_eq`).
-/

namespace DexTriage.Digest.Adler32

/-- Both sums are below the modulus. -/
structure Sums.Reduced (s : Sums) : Prop where
  bytes : s.bytes < modulus
  totals : s.totals < modulus

/-- The sums before the first byte are below the modulus. -/
lemma reduced_initial : initial.Reduced where
  bytes := by decide
  totals := by decide

/-- A byte keeps the sums below the modulus. -/
lemma reduced_step (s : Sums) (byte) : (step s byte).Reduced where
  bytes := Nat.mod_lt _ (by decide)
  totals := Nat.mod_lt _ (by decide)

/-- Bytes keep the sums below the modulus. -/
lemma Sums.Reduced.foldl {s : Sums} (reduced : s.Reduced) (bytes : List UInt8) :
    (bytes.foldl step s).Reduced := by
  induction bytes generalizing s with
  | nil => exact reduced
  | cons byte bytes ih => exact ih (reduced_step s byte)

/-- A summand can be told from a sum modulo a number that is greater than it. -/
lemma eq_of_add_mod_eq {a b c n : Nat} (small : b < n) (small' : c < n)
    (same : (a + b) % n = (a + c) % n) : b = c :=
  Nat.ModEq.eq_of_lt_of_lt (Nat.ModEq.add_left_cancel' a same) small small'

variable {s s' : Sums} {byte byte' : UInt8}

/-- The second sum before a byte can be told from the sums behind it. -/
lemma totals_eq_of_step_eq (reduced : s.Reduced) (reduced' : s'.Reduced)
    (same : step s byte = step s' byte') : s.totals = s'.totals := by
  have bytes : (step s byte).bytes = (step s' byte').bytes := congrArg Sums.bytes same
  have totals : (step s byte).totals = (step s' byte').totals := congrArg Sums.totals same
  have sum : ((step s' byte').bytes + s.totals) % modulus =
      ((step s' byte').bytes + s'.totals) % modulus := by
    calc ((step s' byte').bytes + s.totals) % modulus
        = (step s byte).totals := by rw [← bytes, Nat.add_comm]; rfl
      _ = (step s' byte').totals := totals
      _ = ((step s' byte').bytes + s'.totals) % modulus := by rw [Nat.add_comm]; rfl
  exact eq_of_add_mod_eq reduced.totals reduced'.totals sum

/-- The sums before a byte can be told from the sums behind it. -/
lemma step_injective (reduced : s.Reduced) (reduced' : s'.Reduced)
    (same : step s byte = step s' byte) : s = s' := by
  have bytes : (s.bytes + byte.toNat) % modulus = (s'.bytes + byte.toNat) % modulus :=
    congrArg Sums.bytes same
  rw [Nat.add_comm, Nat.add_comm s'.bytes] at bytes
  have first := eq_of_add_mod_eq reduced.bytes reduced'.bytes bytes
  have second := totals_eq_of_step_eq reduced reduced' same
  cases s
  cases s'
  cases first
  cases second
  rfl

/-- A byte can be told from the first sum behind it. -/
lemma byte_eq_of_bytes_eq (same : (step s byte).bytes = (step s byte').bytes) : byte = byte' := by
  have small (b : UInt8) : b.toNat < modulus := b.toNat_lt.trans (by decide)
  exact UInt8.toNat_inj.1 (eq_of_add_mod_eq (small byte) (small byte') same)

/-- A byte can be told from the second sum behind it. -/
lemma byte_eq_of_totals_eq (same : (step s byte).totals = (step s byte').totals) :
    byte = byte' :=
  byte_eq_of_bytes_eq <|
    eq_of_add_mod_eq (reduced_step s byte).bytes (reduced_step s byte').bytes same

/-- The sums before some bytes can be told from the sums behind them. -/
lemma foldl_step_injective (reduced : s.Reduced) (reduced' : s'.Reduced) {bytes : List UInt8}
    (same : bytes.foldl step s = bytes.foldl step s') : s = s' := by
  induction bytes generalizing s s' with
  | nil => exact same
  | cons byte bytes ih =>
    exact step_injective reduced reduced' (ih (reduced_step s byte) (reduced_step s' byte) same)

/-- Up to two bytes can be told from the sums behind them. -/
lemma eq_of_foldl_step_eq {window window' : List UInt8} (short : window.length ≤ 2)
    (length : window'.length = window.length)
    (same : window.foldl step s = window'.foldl step s) : window = window' := by
  match window, window', short, length, same with
  | [], [], _, _, _ => rfl
  | [a], [a'], _, _, same => rw [byte_eq_of_bytes_eq (congrArg Sums.bytes same)]
  | [a, b], [a', b'], _, _, same =>
    -- the second sum before the last byte is that of the first byte alone
    have totals : (step s a).totals = (step s a').totals :=
      totals_eq_of_step_eq (reduced_step s a) (reduced_step s a') same
    obtain rfl := byte_eq_of_totals_eq totals
    have bytes : (step (step s a) b).bytes = (step (step s a) b').bytes :=
      congrArg Sums.bytes same
    rw [byte_eq_of_bytes_eq bytes]

/-- A word holds the sums of at most one state. -/
lemma word_injective (reduced : s.Reduced) (reduced' : s'.Reduced) (same : s.word = s'.word) :
    s = s' := by
  obtain ⟨bytes, totals⟩ := s
  obtain ⟨bytes', totals'⟩ := s'
  have small (r : Sums) (reduced : r.Reduced) : 65536 * r.totals + r.bytes < UInt32.size := by
    obtain ⟨bytes, totals⟩ := reduced
    rw [modulus] at bytes totals
    rw [UInt32.size]
    omega
  have number := congrArg UInt32.toNat same
  rw [Sums.word, Sums.word, UInt32.toNat_ofNat_of_lt' (small _ reduced),
    UInt32.toNat_ofNat_of_lt' (small _ reduced')] at number
  obtain ⟨lt, -⟩ := reduced
  obtain ⟨lt', -⟩ := reduced'
  simp only [modulus] at lt lt' number
  rw [Sums.mk.injEq]
  omega

/-- A checksum takes notice of every change within two neighbouring bytes. -/
lemma eq_of_checksum_eq {before window window' behind : List UInt8} (short : window.length ≤ 2)
    (length : window'.length = window.length)
    (same : checksum (before ++ (window ++ behind)) = checksum (before ++ (window' ++ behind))) :
    window = window' := by
  have start := reduced_initial.foldl before
  have sums := word_injective (reduced_initial.foldl _) (reduced_initial.foldl _) same
  rw [List.foldl_append, List.foldl_append, List.foldl_append, List.foldl_append] at sums
  exact eq_of_foldl_step_eq short length
    (foldl_step_injective (start.foldl window) (start.foldl window') sums)

end DexTriage.Digest.Adler32
