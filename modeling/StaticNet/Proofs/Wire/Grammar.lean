import Mathlib.Algebra.Ring.Nat
import Mathlib.Data.List.Basic
import StaticNet.Proofs.Outcome
import StaticNet.Wire.Field

/-! # The grammar of tags and payloads

Which bytes spell a variable length integer, a tag and a payload, said apart from how they are read.
An integer may be spelled in more bytes than it needs, up to ten. Each reader takes what is spelled
in front of any further bytes, and takes nothing else.
-/

namespace StaticNet.Wire

/-! ## Integers -/

/-- The natural that groups of seven bits stand for, least significant first. -/
def groupsValue : Bytes → Nat
  | [] => 0
  | byte :: rest => byte.toNat % 0x80 + 0x80 * groupsValue rest

/-- All bytes but the last have their high bit set. -/
def Continued (bytes : Bytes) : Prop :=
  ∃ init last, bytes = init ++ [last] ∧ (∀ byte ∈ init, 0x80 ≤ byte) ∧ last < 0x80

/-- Bytes that spell an integer of 64 bits. -/
structure SpellsVarint (n : Nat) (bytes : Bytes) : Prop where
  continued : Continued bytes
  short : bytes.length ≤ 10
  value : groupsValue bytes = n
  bound : n < 2 ^ 64

/-- A byte without its high bit spells itself. -/
theorem spellsVarint_single {byte : UInt8} {n : Nat} (low : byte < 0x80) (same : byte.toNat = n) :
    SpellsVarint n [byte] := by
  subst same
  have small : byte.toNat < 0x80 := UInt8.lt_iff_toNat_lt.mp low
  refine ⟨⟨[], byte, rfl, nofun, low⟩, by simp, Nat.mod_eq_of_lt small, ?_⟩
  exact Nat.lt_trans byte.toNat_lt (by decide)

private theorem continued_cons {byte : UInt8} {rest : Bytes} (more : 0x80 ≤ byte)
    (continued : Continued rest) : Continued (byte :: rest) := by
  obtain ⟨init, last, rfl, high, low⟩ := continued
  exact ⟨byte :: init, last, rfl, List.forall_mem_cons.mpr ⟨more, high⟩, low⟩

/-- The room that is left for the higher groups. -/
private theorem pow_room {position : Nat} (early : position < 9) :
    2 ^ (64 - 7 * position) = 0x80 * 2 ^ (64 - 7 * (position + 1)) := by
  have split : 64 - 7 * position = 7 + (64 - 7 * (position + 1)) := by omega
  rw [split, Nat.pow_add]

private theorem takeGroups_spelled {position n : Nat} {bytes rest : Bytes} (early : position ≤ 9)
    (taken : takeGroups position bytes = .ok (n, rest)) :
    ∃ spelled, bytes = spelled ++ rest ∧ Continued spelled ∧ spelled.length ≤ 10 - position ∧
      groupsValue spelled = n ∧ n < 2 ^ (64 - 7 * position) := by
  -- Each group leaves seven bits less for those behind it: the tenth byte may hold one bit.
  induction bytes generalizing position n with
  | nil => cases taken
  | cons byte tail ih =>
    have single : byte < 0x80 → groupsValue [byte] = byte.toNat := fun low =>
      (spellsVarint_single low rfl).value
    rw [takeGroups] at taken
    split at taken
    · next last =>
      split at taken
      · next low =>
        cases taken
        have small : byte.toNat < 2 := UInt8.lt_iff_toNat_lt.mp low
        have lower : byte < 0x80 := UInt8.lt_iff_toNat_lt.mpr (by simp; omega)
        refine ⟨[byte], rfl, ⟨[], byte, rfl, by simp, lower⟩, by simp [last], single lower, ?_⟩
        rw [last]
        exact small
      · cases taken
    · next notLast =>
      split at taken
      · next low =>
        cases taken
        have small : byte.toNat < 0x80 := UInt8.lt_iff_toNat_lt.mp low
        refine ⟨[byte], rfl, ⟨[], byte, rfl, by simp, low⟩, by simp; omega, single low, ?_⟩
        have room : 2 ^ (64 - 7 * position) = _ := pow_room (by omega)
        have positive : 0 < 2 ^ (64 - 7 * (position + 1)) := Nat.two_pow_pos _
        omega
      · next high =>
        split at taken
        · next upper more inner =>
          cases taken
          obtain ⟨spelled, rfl, continued, short, value, bound⟩ := ih (by omega) inner
          have large : 0x80 ≤ byte.toNat :=
            Nat.not_lt.mp fun low => high (UInt8.lt_iff_toNat_lt.mpr low)
          have byteBound := byte.toNat_lt
          refine ⟨byte :: spelled, rfl, continued_cons (UInt8.le_iff_toNat_le.mpr large) continued,
            by simp; omega, ?_, ?_⟩
          · rw [groupsValue, value]
            omega
          · rw [pow_room (by omega)]
            omega
        · cases taken

private theorem takeGroups_append {position : Nat} {init : Bytes} {last : UInt8}
    (high : ∀ byte ∈ init, 0x80 ≤ byte) (low : last < 0x80)
    (short : (init ++ [last]).length ≤ 10 - position)
    (bound : groupsValue (init ++ [last]) < 2 ^ (64 - 7 * position)) (rest : Bytes) :
    takeGroups position (init ++ [last] ++ rest) = .ok (groupsValue (init ++ [last]), rest) := by
  induction init generalizing position with
  | nil =>
    have value : groupsValue [last] = last.toNat := (spellsVarint_single low rfl).value
    rw [List.nil_append, value] at bound ⊢
    rw [List.singleton_append, takeGroups]
    by_cases final : position = 9
    · rw [final] at bound
      rw [if_pos final, if_pos (UInt8.lt_iff_toNat_lt.mpr bound)]
    · rw [if_neg final, if_pos low]
  | cons byte init ih =>
    obtain ⟨more, highRest⟩ := List.forall_mem_cons.mp high
    have large : 0x80 ≤ byte.toNat := UInt8.le_iff_toNat_le.mp more
    have byteBound := byte.toNat_lt
    simp only [List.cons_append, List.length_cons, List.length_append, List.length_nil,
      groupsValue] at short bound ⊢
    rw [pow_room (by omega)] at bound
    have inner : takeGroups (position + 1) _ = _ := ih highRest (by simp; omega) (by omega)
    have notLow : ¬ byte < 0x80 := fun below =>
      Nat.not_lt.mpr large (UInt8.lt_iff_toNat_lt.mp below)
    have value : byte.toNat - 0x80 = byte.toNat % 0x80 := by omega
    rw [takeGroups, if_neg (by omega), if_neg notLow, inner, value]

theorem SpellsVarint.take {n : Nat} {bytes : Bytes} (spells : SpellsVarint n bytes) (rest : Bytes) :
    takeVarint (bytes ++ rest) = .ok (n, rest) := by
  obtain ⟨⟨init, last, rfl, high, low⟩, short, rfl, bound⟩ := spells
  exact takeGroups_append high low short bound rest

theorem takeVarint_eq_ok_iff {n : Nat} {bytes rest : Bytes} :
    takeVarint bytes = .ok (n, rest) ↔
      ∃ spelled, bytes = spelled ++ rest ∧ SpellsVarint n spelled := by
  constructor
  · intro taken
    obtain ⟨spelled, split, continued, short, value, bound⟩ :=
      takeGroups_spelled (Nat.zero_le 9) taken
    exact ⟨spelled, split, continued, short, value, bound⟩
  · rintro ⟨spelled, rfl, spells⟩
    exact spells.take rest

/-! ## Tags and payloads -/

/-- Bytes that spell a tag. -/
structure SpellsTag (tag : Tag) (bytes : Bytes) : Prop where
  positive : 0 < tag.number
  small : tag.number ≤ largestNumber
  known : tag.wireType < 8
  spells : SpellsVarint (8 * tag.number + tag.wireType) bytes

theorem SpellsTag.take {tag : Tag} {bytes : Bytes} (spells : SpellsTag tag bytes) (rest : Bytes) :
    takeTag (bytes ++ rest) = .ok (tag, rest) := by
  obtain ⟨positive, small, known, spelled⟩ := spells
  have number : (8 * tag.number + tag.wireType) / 8 = tag.number := by omega
  have wireType : (8 * tag.number + tag.wireType) % 8 = tag.wireType := by omega
  rw [takeTag, spelled.take rest]
  dsimp only
  rw [number, wireType, if_neg (by omega)]

theorem takeTag_eq_ok_iff {tag : Tag} {bytes rest : Bytes} :
    takeTag bytes = .ok (tag, rest) ↔
      ∃ spelled, bytes = spelled ++ rest ∧ SpellsTag tag spelled := by
  constructor
  · intro taken
    unfold takeTag at taken
    split at taken
    · cases taken
    · next n more inner =>
      split at taken
      · cases taken
      · next valid =>
        cases taken
        obtain ⟨spelled, split, spells⟩ := takeVarint_eq_ok_iff.mp inner
        have whole : 8 * (n / 8) + n % 8 = n := Nat.div_add_mod n 8
        exact ⟨spelled, split, by dsimp only; omega, by dsimp only; omega, Nat.mod_lt n (by decide),
          whole.symm ▸ spells⟩
  · rintro ⟨spelled, rfl, spells⟩
    exact spells.take rest

theorem takeBytes_eq_ok_iff {count : Nat} {bytes data rest : Bytes} :
    takeBytes count bytes = .ok (data, rest) ↔ bytes = data ++ rest ∧ data.length = count := by
  unfold takeBytes
  constructor
  · intro taken
    dsimp only at taken
    split at taken
    · next full =>
      cases taken
      exact ⟨(List.take_append_drop count bytes).symm, full⟩
    · cases taken
  · rintro ⟨rfl, full⟩
    dsimp only
    rw [List.take_left' full, List.drop_left' full, if_pos full]

/-- Bytes that spell a payload that is not a group. -/
inductive SpellsScalar : Payload → Bytes → Prop
  | varint {n : Nat} {bytes : Bytes} : SpellsVarint n bytes → SpellsScalar (.varint n) bytes
  | fixed64 {data : Bytes} : data.length = 8 → SpellsScalar (.fixed64 data.toNat) data
  | bytes {count data : Bytes} :
      SpellsVarint data.length count → SpellsScalar (.bytes data) (count ++ data)
  | fixed32 {data : Bytes} : data.length = 4 → SpellsScalar (.fixed32 data.toNat) data

theorem SpellsScalar.take {payload : Payload} {bytes : Bytes} (spells : SpellsScalar payload bytes)
    (rest : Bytes) : takeScalar payload.wireType (bytes ++ rest) = .ok (payload, rest) := by
  cases spells with
  | varint spells =>
    dsimp only [Payload.wireType, takeScalar]
    rw [spells.take rest]
    rfl
  | fixed64 width =>
    dsimp only [Payload.wireType, takeScalar]
    rw [takeBytes_eq_ok_iff.mpr ⟨rfl, width⟩]
    rfl
  | @bytes count data spells =>
    dsimp only [Payload.wireType, takeScalar]
    rw [List.append_assoc, spells.take (data ++ rest)]
    dsimp only [bind, Except.bind]
    rw [takeBytes_eq_ok_iff.mpr ⟨rfl, rfl⟩]
    rfl
  | fixed32 width =>
    dsimp only [Payload.wireType, takeScalar]
    rw [takeBytes_eq_ok_iff.mpr ⟨rfl, width⟩]
    rfl

theorem takeScalar_eq_ok_iff {wireType : Nat} {payload : Payload} {bytes rest : Bytes} :
    takeScalar wireType bytes = .ok (payload, rest) ↔
      payload.wireType = wireType ∧ ∃ spelled, bytes = spelled ++ rest ∧
        SpellsScalar payload spelled := by
  constructor
  · intro taken
    unfold takeScalar at taken
    split at taken
    · obtain ⟨⟨n, more⟩, inner, ⟨⟩⟩ := Outcome.bind_eq_ok_iff.mp taken
      obtain ⟨spelled, split, spells⟩ := takeVarint_eq_ok_iff.mp inner
      exact ⟨rfl, spelled, split, .varint spells⟩
    · obtain ⟨⟨data, more⟩, inner, ⟨⟩⟩ := Outcome.bind_eq_ok_iff.mp taken
      obtain ⟨split, width⟩ := takeBytes_eq_ok_iff.mp inner
      exact ⟨rfl, data, split, .fixed64 width⟩
    · obtain ⟨⟨count, more⟩, first, continued⟩ := Outcome.bind_eq_ok_iff.mp taken
      obtain ⟨⟨data, last⟩, second, ⟨⟩⟩ := Outcome.bind_eq_ok_iff.mp continued
      obtain ⟨spelled, rfl, spells⟩ := takeVarint_eq_ok_iff.mp first
      obtain ⟨rfl, rfl⟩ := takeBytes_eq_ok_iff.mp second
      exact ⟨rfl, spelled ++ data, (List.append_assoc ..).symm, .bytes spells⟩
    · cases taken
    · obtain ⟨⟨data, more⟩, inner, ⟨⟩⟩ := Outcome.bind_eq_ok_iff.mp taken
      obtain ⟨split, width⟩ := takeBytes_eq_ok_iff.mp inner
      exact ⟨rfl, data, split, .fixed32 width⟩
    · cases taken
  · rintro ⟨rfl, spelled, rfl, spells⟩
    exact spells.take rest

end StaticNet.Wire
