import Mathlib
import DexTriage.Proofs.Mutf8.Encode

/-!
# The shortest spelling of a text

A code unit may be spelled in more bytes than it needs. `Shortest` looks for such units in the
bytes alone. A spelling without them is what `encode` writes for its text, and any other spelling is
longer than that (`Spells.shortest_or_longer`), so that a text that was read is written back as it
was exactly if it was spelled shortest (`encode_decode`).
-/

namespace DexTriage.Mutf8

/-- Two bytes with which a code unit starts that takes more bytes than it needs. -/
def isOverlong (lead next : UInt8) : Bool :=
  lead == 0xC1 || lead == 0xC0 && next != 0x80 || lead == 0xE0 && next < 0xA0

/-- Bytes in which no code unit takes more bytes than it needs. -/
def Shortest (spelled : List UInt8) : Prop :=
  spelled.IsChain fun lead next => isOverlong lead next = false

instance (spelled : List UInt8) : Decidable (Shortest spelled) :=
  inferInstanceAs (Decidable (spelled.IsChain _))

/-- The starts of too long units in numbers. -/
lemma isOverlong_eq_false_iff {lead next : UInt8} :
    isOverlong lead next = false ↔ lead.toNat ≠ 0xC1 ∧
      (lead.toNat = 0xC0 → next.toNat = 0x80) ∧ (lead.toNat = 0xE0 → 0xA0 ≤ next.toNat) := by
  simp only [isOverlong, Bool.or_eq_false_iff, Bool.and_eq_false_imp, beq_iff_eq, bne_eq_false_iff_eq,
    beq_eq_false_iff_ne, decide_eq_false_iff_not, UInt8.lt_iff_toNat_lt, ← UInt8.toNat_inj, ne_eq,
    not_lt, and_assoc]
  rfl

/-- A byte below the leads of longer units does not start a unit that is too long. -/
lemma isOverlong_of_lt {lead next : UInt8} (low : lead.toNat < 0xC0) :
    isOverlong lead next = false :=
  isOverlong_eq_false_iff.2 ⟨by omega, by omega, by omega⟩

/-- A unit ends with a byte that starts no longer unit. -/
lemma SpellsUnit.lt_of_mem_getLast? {spelled unit last} (su : SpellsUnit spelled unit)
    (mem : last ∈ spelled.getLast?) : last.toNat < 0xC0 := by
  cases su with
  | @one a _ hi =>
    obtain rfl : a = last := Option.some.inj mem
    omega
  | @two _ b _ _ cont =>
    obtain rfl : b = last := Option.some.inj mem
    exact Nat.lt_succ_of_le cont.2
  | @three _ _ c _ _ _ cont =>
    obtain rfl : c = last := Option.some.inj mem
    exact Nat.lt_succ_of_le cont.2

/-- Bytes behind a unit are judged on their own. -/
lemma SpellsUnit.shortest_append_iff {spelled unit bytes} (su : SpellsUnit spelled unit) :
    Shortest (spelled ++ bytes) ↔ Shortest spelled ∧ Shortest bytes := by
  rw [Shortest, List.isChain_append]
  constructor
  · rintro ⟨short, shortBytes, -⟩
    exact ⟨short, shortBytes⟩
  · rintro ⟨short, shortBytes⟩
    exact ⟨short, shortBytes, fun last mem _ _ => isOverlong_of_lt (su.lt_of_mem_getLast? mem)⟩

/-- A unit is spelled as `encode` writes it, or in more bytes and not in the shortest way. -/
lemma SpellsUnit.shortest_or_longer {spelled unit} (su : SpellsUnit spelled unit) :
    encodeUnit unit = spelled ∧ Shortest spelled ∨
      (encodeUnit unit).length < spelled.length ∧ ¬ Shortest spelled := by
  cases su with
  | @one a lo hi =>
    refine .inl ⟨?_, List.isChain_singleton a⟩
    rw [encodeUnit, if_pos ⟨lo, by omega⟩, UInt8.ofNat_toNat]
  | @two a b lo hi cont =>
    obtain ⟨lo', hi'⟩ := cont
    rw [Shortest, List.isChain_pair, isOverlong_eq_false_iff]
    generalize eq : (a.toNat - 0xC0) * 0x40 + (b.toNat - 0x80) = unit
    by_cases ascii : 0 < unit ∧ unit < 0x80
    · refine .inr ⟨?_, by omega⟩
      rw [encodeUnit, if_pos ascii]
      simp
    · refine .inl ⟨?_, by omega, by omega, by omega⟩
      have lead : 0xC0 + unit / 64 = a.toNat := by omega
      have low : 0x80 + unit % 64 = b.toNat := by omega
      rw [encodeUnit, if_neg ascii, if_pos (by omega), lead, low, UInt8.ofNat_toNat,
        UInt8.ofNat_toNat]
  | @three a b c lo hi cont cont' =>
    obtain ⟨lo', hi'⟩ := cont
    obtain ⟨lo'', hi''⟩ := cont'
    rw [Shortest, List.isChain_cons_cons, List.isChain_pair, isOverlong_eq_false_iff,
      isOverlong_eq_false_iff]
    generalize eq : (a.toNat - 0xE0) * 0x1000 + (b.toNat - 0x80) * 0x40 + (c.toNat - 0x80) = unit
    by_cases short : unit < 0x800
    · refine .inr ⟨?_, by omega⟩
      rw [encodeUnit, if_pos short]
      split
      · simp
      · simp
    · refine .inl ⟨?_, ⟨by omega, by omega, by omega⟩, by omega, by omega, by omega⟩
      have lead : 0xE0 + unit / 4096 = a.toNat := by omega
      have middle : 0x80 + unit / 64 % 64 = b.toNat := by omega
      have low : 0x80 + unit % 64 = c.toNat := by omega
      rw [encodeUnit, if_neg (by omega), if_neg short, lead, middle, low, UInt8.ofNat_toNat,
        UInt8.ofNat_toNat, UInt8.ofNat_toNat]

/-- Units are spelled as `encode` writes them, or in more bytes and not in the shortest way. -/
lemma Spells.shortest_or_longer {spelled units} (sp : Spells spelled units) :
    units.flatMap encodeUnit = spelled ∧ Shortest spelled ∨
      (units.flatMap encodeUnit).length < spelled.length ∧ ¬ Shortest spelled := by
  induction sp with
  | nil => exact .inl ⟨rfl, .nil⟩
  | cons su _ ih =>
    rw [List.flatMap_cons, su.shortest_append_iff, List.length_append, List.length_append]
    obtain ⟨eq, short⟩ | ⟨longer, long⟩ := su.shortest_or_longer
    · obtain ⟨eqs, shorts⟩ | ⟨longers, longs⟩ := ih
      · exact .inl ⟨by rw [eq, eqs], short, shorts⟩
      · exact .inr ⟨by rw [eq]; omega, fun both => longs both.2⟩
    · refine .inr ⟨?_, fun both => long both.1⟩
      obtain ⟨eqs, -⟩ | ⟨longers, -⟩ := ih
      · rw [eqs]
        omega
      · omega

/-- Spelled units end at one place only. -/
lemma Spells.unique {spelled spelled' units units' rest rest'} (sp : Spells spelled units)
    (sp' : Spells spelled' units') (same : spelled ++ rest = spelled' ++ rest')
    (count : units.length = units'.length) : spelled = spelled' := by
  induction sp generalizing spelled' units' with
  | nil =>
    cases sp' with
    | nil => rfl
    | cons => cases count
  | @cons first unit bytes units su _ ih =>
    cases sp' with
    | nil => cases count
    | @cons first' unit' bytes' units' su' sp' =>
      rw [List.append_assoc, List.append_assoc] at same
      have read := unitAt_append su 0 (bytes ++ rest)
      rw [same, unitAt_append su', Except.ok.injEq, Prod.mk.injEq] at read
      obtain ⟨rfl, behind⟩ := List.append_inj same read.2.symm
      rw [ih sp' behind (Nat.succ.inj count)]

/-- The bytes that a text of so many code units is read from. -/
def IsRead (bytes : List UInt8) (count : Nat) (spelled : List UInt8) : Prop :=
  spelled <+: bytes ∧ ∃ units, Spells spelled units ∧ units.length = count

/-- There is one stretch of bytes that a text was read from. What `encode` writes for the text is
never longer than that, and it is the same exactly if no code unit takes more bytes than it
needs. -/
theorem encode_decode {bytes count text} (read : decode bytes count = .ok text) :
    ∃ spelled, (∀ other, IsRead bytes count other ↔ other = spelled) ∧
      (encode text).length ≤ spelled.length ∧
      (encode text = spelled ↔ Shortest spelled) := by
  obtain ⟨rfl, spelled, rest, rfl, sp⟩ := decode_eq_ok_iff.1 read
  have encoded : encode text = (text.toList.flatMap units16).flatMap encodeUnit :=
    List.flatMap_assoc.symm
  refine ⟨spelled, fun other => ⟨?_, ?_⟩, ?_⟩
  · rintro ⟨⟨rest', same⟩, units, sp', count⟩
    exact sp'.unique sp same count
  · rintro rfl
    exact ⟨List.prefix_append _ _, _, sp, rfl⟩
  rw [encoded]
  obtain ⟨eq, short⟩ | ⟨longer, long⟩ := sp.shortest_or_longer
  · exact ⟨Nat.le_of_eq (congrArg List.length eq), iff_of_true eq short⟩
  · refine ⟨Nat.le_of_lt longer, iff_of_false ?_ long⟩
    rintro eq
    exact Nat.lt_irrefl _ (eq ▸ longer)

/-- The letter `A` in two bytes instead of one, before a surrogate pair. -/
theorem encode_decode_overlong :
    decode [0xC1, 0x81, 0xED, 0xA0, 0xBD, 0xED, 0xB8, 0x80, 0xFF] 3 = .ok "A😀" ∧
    IsRead [0xC1, 0x81, 0xED, 0xA0, 0xBD, 0xED, 0xB8, 0x80, 0xFF] 3
      [0xC1, 0x81, 0xED, 0xA0, 0xBD, 0xED, 0xB8, 0x80] ∧
    ¬ Shortest [0xC1, 0x81, 0xED, 0xA0, 0xBD, 0xED, 0xB8, 0x80] ∧
    ¬ encode "A😀" = [0xC1, 0x81, 0xED, 0xA0, 0xBD, 0xED, 0xB8, 0x80] := by
  have read : decode [0xC1, 0x81, 0xED, 0xA0, 0xBD, 0xED, 0xB8, 0x80, 0xFF] 3 = .ok "A😀" := by
    decide
  have long : ¬ Shortest [0xC1, 0x81, 0xED, 0xA0, 0xBD, 0xED, 0xB8, 0x80] := by decide
  have pair : Spells [0xED, 0xA0, 0xBD, 0xED, 0xB8, 0x80] [0xD83D, 0xDE00] :=
    spells_encode "😀"
  have sp : Spells [0xC1, 0x81, 0xED, 0xA0, 0xBD, 0xED, 0xB8, 0x80] [0x41, 0xD83D, 0xDE00] :=
    .cons (.two (by decide) (by decide) ⟨by decide, by decide⟩) pair
  have isRead : IsRead [0xC1, 0x81, 0xED, 0xA0, 0xBD, 0xED, 0xB8, 0x80, 0xFF] 3 _ :=
    ⟨⟨[0xFF], rfl⟩, _, sp, rfl⟩
  obtain ⟨spelled, only, -, same_iff⟩ := encode_decode read
  obtain rfl := (only _).1 isRead
  exact ⟨read, isRead, long, fun same => long (same_iff.1 same)⟩

end DexTriage.Mutf8
