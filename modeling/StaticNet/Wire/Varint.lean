import StaticNet.Bytes

/-! # Variable length integers

An integer of 64 bits is written in groups of seven bits, least significant first. Every byte but
the last has its high bit set. There are at most ten bytes, and the last of ten holds one bit.
-/

namespace StaticNet.Wire

/-- Why bytes are not a sequence of fields. -/
inductive WireError where
  | truncated
  | fieldNumber
  | overflow
  | reservedType
  | endGroup
  | nesting
deriving DecidableEq

/-- The wording of a wire error. -/
def WireError.message : WireError → String
  | .truncated => "unexpected EOF"
  | .fieldNumber => "proto: invalid field number"
  | .overflow => "proto: variable length integer overflow"
  | .reservedType => "proto: cannot parse reserved wire type"
  | .endGroup => "proto: mismatching end group marker"
  | .nesting => "proto: parse error"

/-- Read the groups of an integer from the given position on. -/
def takeGroups : Nat → Bytes → Except WireError (Nat × Bytes)
  | _, [] => .error .truncated
  | position, byte :: rest =>
      if position = 9 then
        if byte < 2 then .ok (byte.toNat, rest) else .error .overflow
      else if byte < 0x80 then .ok (byte.toNat, rest)
      else
        match takeGroups (position + 1) rest with
        | .ok (high, rest) => .ok (byte.toNat - 0x80 + 0x80 * high, rest)
        | .error cause => .error cause

/-- Read an integer. -/
def takeVarint (bytes : Bytes) : Except WireError (Nat × Bytes) := takeGroups 0 bytes

/-- The signed integer of 64 bits. -/
def signed (n : Nat) : Int64 := Int64.ofNat n

theorem takeGroups_shortens {position n : Nat} {bytes rest : Bytes}
    (taken : takeGroups position bytes = .ok (n, rest)) : rest.length < bytes.length := by
  induction bytes generalizing position n rest with
  | nil => simp [takeGroups] at taken
  | cons byte tail ih =>
    rw [takeGroups] at taken
    split at taken
    · split at taken <;> simp at taken
      simp [taken.2]
    · split at taken
      · simp at taken
        simp [taken.2]
      · split at taken
        · next high more inner =>
          simp at taken
          have := ih inner
          simp only [List.length_cons]
          rw [← taken.2]
          omega
        · simp at taken

/-- Reading an integer consumes at least one byte. -/
theorem takeVarint_shortens {n : Nat} {bytes rest : Bytes}
    (taken : takeVarint bytes = .ok (n, rest)) : rest.length < bytes.length :=
  takeGroups_shortens taken

end StaticNet.Wire
