import StaticNet.Wire.Varint

/-! # Fields

A message is a sequence of fields. A field has a number and a payload whose kind is given by a wire
type. Groups are skipped as a whole; they end at the end marker of their own number.
-/

namespace StaticNet.Wire

/-- The payload of a field. -/
inductive Payload where
  | varint (n : Nat)
  | fixed64 (n : Nat)
  | bytes (data : Bytes)
  | group
  | fixed32 (n : Nat)
deriving DecidableEq

/-- The wire type of a payload. -/
def Payload.wireType : Payload → Nat
  | .varint _ => 0
  | .fixed64 _ => 1
  | .bytes _ => 2
  | .group => 3
  | .fixed32 _ => 5

/-- A field of a message. -/
structure Field where
  number : Nat
  payload : Payload
deriving DecidableEq

/-- The number and the wire type in front of a payload. -/
structure Tag where
  number : Nat
  wireType : Nat
deriving DecidableEq

/-- The largest field number. -/
def largestNumber : Nat := 0x7fffffff

/-- Read a tag. Field numbers are positive and have at most 31 bits. -/
def takeTag (bytes : Bytes) : Except WireError (Tag × Bytes) :=
  match takeVarint bytes with
  | .error cause => .error cause
  | .ok (n, rest) =>
      if n / 8 = 0 ∨ largestNumber < n / 8 then .error .fieldNumber
      else .ok (⟨n / 8, n % 8⟩, rest)

/-- Read a given number of bytes. -/
def takeBytes (count : Nat) (bytes : Bytes) : Except WireError (Bytes × Bytes) :=
  let taken := bytes.take count
  if taken.length = count then .ok (taken, bytes.drop count) else .error .truncated

/-- Read a payload that is not a group. -/
def takeScalar (wireType : Nat) (bytes : Bytes) : Except WireError (Payload × Bytes) :=
  match wireType with
  | 0 => do
      let (n, rest) ← takeVarint bytes
      return (.varint n, rest)
  | 1 => do
      let (data, rest) ← takeBytes 8 bytes
      return (.fixed64 data.toNat, rest)
  | 2 => do
      let (count, rest) ← takeVarint bytes
      let (data, rest) ← takeBytes count rest
      return (.bytes data, rest)
  | 4 => .error .endGroup
  | 5 => do
      let (data, rest) ← takeBytes 4 bytes
      return (.fixed32 data.toNat, rest)
  | _ => .error .reservedType

/-- The number of groups that may be open at a time. -/
def nestingLimit : Nat := 10001

theorem takeTag_shortens {tag : Tag} {bytes rest : Bytes}
    (taken : takeTag bytes = .ok (tag, rest)) : rest.length < bytes.length := by
  unfold takeTag at taken
  split at taken
  · simp at taken
  · next n more inner =>
    split at taken
    · simp at taken
    · simp at taken
      rw [← taken.2]
      exact takeVarint_shortens inner

theorem takeBytes_length {count : Nat} {bytes data rest : Bytes}
    (taken : takeBytes count bytes = .ok (data, rest)) : rest.length ≤ bytes.length := by
  unfold takeBytes at taken
  simp only at taken
  split at taken
  · simp at taken
    rw [← taken.2]
    simp
  · simp at taken

theorem takeScalar_length {wireType : Nat} {bytes rest : Bytes} {payload : Payload}
    (taken : takeScalar wireType bytes = .ok (payload, rest)) : rest.length ≤ bytes.length := by
  unfold takeScalar at taken
  split at taken
  · rcases first : takeVarint bytes with cause | ⟨n, more⟩
    · simp [first, bind, Except.bind] at taken
    · simp [first, bind, Except.bind, pure, Except.pure] at taken
      rw [← taken.2]
      exact Nat.le_of_lt (takeVarint_shortens first)
  · rcases first : takeBytes 8 bytes with cause | ⟨data, more⟩
    · simp [first, bind, Except.bind] at taken
    · simp [first, bind, Except.bind, pure, Except.pure] at taken
      rw [← taken.2]
      exact takeBytes_length first
  · rcases first : takeVarint bytes with cause | ⟨count, more⟩
    · simp [first, bind, Except.bind] at taken
    · rcases second : takeBytes count more with cause | ⟨data, last⟩
      · simp [first, second, bind, Except.bind] at taken
      · simp [first, second, bind, Except.bind, pure, Except.pure] at taken
        rw [← taken.2]
        exact Nat.le_trans (takeBytes_length second) (Nat.le_of_lt (takeVarint_shortens first))
  · simp at taken
  · rcases first : takeBytes 4 bytes with cause | ⟨data, more⟩
    · simp [first, bind, Except.bind] at taken
    · simp [first, bind, Except.bind, pure, Except.pure] at taken
      rw [← taken.2]
      exact takeBytes_length first
  · simp at taken

/-- The bytes behind the open groups, innermost first. -/
def skipGroups (groups : List Nat) (bytes : Bytes) : Except WireError Bytes :=
  match groups with
  | [] => .ok bytes
  | innermost :: outer =>
      match _ : takeTag bytes with
      | .error cause => .error cause
      | .ok (tag, rest) =>
          if tag.wireType = 4 then
            if tag.number = innermost then skipGroups outer rest else .error .endGroup
          else if tag.wireType = 3 then
            if groups.length < nestingLimit then skipGroups (tag.number :: groups) rest
            else .error .nesting
          else
            match _ : takeScalar tag.wireType rest with
            | .error cause => .error cause
            | .ok (_, rest) => skipGroups groups rest
termination_by bytes.length
decreasing_by
  · exact takeTag_shortens (by assumption)
  · exact takeTag_shortens (by assumption)
  · exact Nat.lt_of_le_of_lt (takeScalar_length (by assumption)) (takeTag_shortens (by assumption))

theorem skipGroups_length (groups : List Nat) (bytes : Bytes) {rest : Bytes}
    (skipped : skipGroups groups bytes = .ok rest) : rest.length ≤ bytes.length := by
  fun_induction skipGroups groups bytes with
  | case1 bytes => simp_all
  | case2 => simp at skipped
  | case3 bytes outer tag more read _ ih =>
    have := ih skipped
    have := takeTag_shortens read
    omega
  | case4 => simp at skipped
  | case5 bytes innermost outer tag more read _ _ room ih =>
    rw [if_pos room] at skipped
    have := ih skipped
    have := takeTag_shortens read
    omega
  | case6 bytes innermost outer tag more read _ _ full =>
    rw [if_neg full] at skipped
    simp at skipped
  | case7 => simp at skipped
  | case8 bytes innermost outer tag more read _ _ payload behind scalar ih =>
    have := ih skipped
    have := takeTag_shortens read
    have := takeScalar_length scalar
    omega

/-- Read the payload behind a tag. -/
def takePayload (tag : Tag) (bytes : Bytes) : Except WireError (Payload × Bytes) :=
  if tag.wireType = 3 then (skipGroups [tag.number] bytes).map fun rest => (.group, rest)
  else takeScalar tag.wireType bytes

theorem takePayload_length {tag : Tag} {bytes rest : Bytes} {payload : Payload}
    (taken : takePayload tag bytes = .ok (payload, rest)) : rest.length ≤ bytes.length := by
  unfold takePayload at taken
  split at taken
  · cases skipped : skipGroups [tag.number] bytes with
    | error cause => simp [skipped, Except.map] at taken
    | ok behind =>
      simp [skipped, Except.map] at taken
      rw [← taken.2]
      exact skipGroups_length _ _ skipped
  · exact takeScalar_length taken

/-- Where reading fields stopped: in front of a tag, or in the payload of a field. -/
inductive Fault where
  | tag (cause : WireError)
  | payload (number : Nat) (cause : WireError)
deriving DecidableEq

/-- The fields at the start of bytes, and what is wrong behind them. -/
def scan (bytes : Bytes) : List Field × Option Fault :=
  if bytes.isEmpty then ([], none)
  else
    match _ : takeTag bytes with
    | .error cause => ([], some (.tag cause))
    | .ok (tag, behind) =>
        match _ : takePayload tag behind with
        | .error cause => ([], some (.payload tag.number cause))
        | .ok (payload, rest) =>
            let (fields, fault) := scan rest
            (⟨tag.number, payload⟩ :: fields, fault)
termination_by bytes.length
decreasing_by
  exact Nat.lt_of_le_of_lt (takePayload_length (by assumption)) (takeTag_shortens (by assumption))

end StaticNet.Wire
