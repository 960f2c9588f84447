import StaticNet.Proofs.Wire.Grammar

/-! # Sequences of fields

A field is a tag and its payload. A group is opened by one tag and closed by another one; between
them there are fields, groups among them, within the limit on open groups. Scanning finds exactly
the fields that bytes spell, and reads past a group as a whole.
-/

namespace StaticNet.Wire

/-- Bytes that spell fields, with room for so many groups inside each other. -/
inductive SpellsFields : Nat → List Field → Bytes → Prop
  | nil {room : Nat} : SpellsFields room [] []
  | scalar {room number : Nat} {payload : Payload} {fields : List Field} {tag value rest : Bytes} :
      SpellsTag ⟨number, payload.wireType⟩ tag → SpellsScalar payload value →
      SpellsFields room fields rest →
      SpellsFields room (⟨number, payload⟩ :: fields) (tag ++ value ++ rest)
  | group {room number : Nat} {inside fields : List Field} {start contents stop rest : Bytes} :
      SpellsTag ⟨number, 3⟩ start → SpellsFields room inside contents →
      SpellsTag ⟨number, 4⟩ stop → SpellsFields (room + 1) fields rest →
      SpellsFields (room + 1) (⟨number, .group⟩ :: fields) (start ++ contents ++ stop ++ rest)

/-- A message consists of fields with all the room there is. -/
abbrev SpellsMessage (fields : List Field) (bytes : Bytes) : Prop :=
  SpellsFields nestingLimit fields bytes

theorem SpellsScalar.wireType_ne {payload : Payload} {bytes : Bytes}
    (spells : SpellsScalar payload bytes) : payload.wireType ≠ 3 ∧ payload.wireType ≠ 4 := by
  cases spells <;> exact ⟨nofun, nofun⟩

/-! ## Groups -/

section Groups

variable {groups outer : List Nat} {number : Nat} {bytes rest : Bytes}

private theorem skipGroups_stop (taken : takeTag bytes = .ok (⟨number, 4⟩, rest)) :
    skipGroups (number :: outer) bytes = skipGroups outer rest := by
  rw [skipGroups]
  split
  · simp_all
  · simp_all

private theorem skipGroups_start (opened : groups ≠ []) (room : groups.length < nestingLimit)
    (taken : takeTag bytes = .ok (⟨number, 3⟩, rest)) :
    skipGroups groups bytes = skipGroups (number :: groups) rest := by
  obtain ⟨innermost, outer, rfl⟩ := List.exists_cons_of_ne_nil opened
  rw [skipGroups]
  split
  · simp_all
  · simp_all

private theorem skipGroups_scalar {payload : Payload} {value : Bytes} (opened : groups ≠ [])
    (taken : takeTag bytes = .ok (⟨number, payload.wireType⟩, value ++ rest))
    (spells : SpellsScalar payload value) :
    skipGroups groups bytes = skipGroups groups rest := by
  obtain ⟨innermost, outer, rfl⟩ := List.exists_cons_of_ne_nil opened
  obtain ⟨notStart, notStop⟩ := spells.wireType_ne
  have read := spells.take rest
  rw [skipGroups]
  split
  · simp_all
  · next tag behind same =>
    obtain ⟨rfl, rfl⟩ : tag = ⟨number, payload.wireType⟩ ∧ behind = value ++ rest := by
      simpa [taken, eq_comm] using same
    rw [if_neg notStop, if_neg notStart]
    split <;> simp_all

/-- Fields inside an open group are read past. -/
theorem SpellsFields.skip {room : Nat} {fields : List Field}
    (spells : SpellsFields room fields bytes) (opened : groups ≠ [])
    (limit : groups.length + room = nestingLimit) (rest : Bytes) :
    skipGroups groups (bytes ++ rest) = skipGroups groups rest := by
  induction spells generalizing groups rest with
  | nil => rfl
  | @scalar room number payload fields tag value behind tagged valued _ ih =>
    have taken := tagged.take (value ++ (behind ++ rest))
    rw [List.append_assoc, List.append_assoc, skipGroups_scalar opened taken valued]
    exact ih opened limit rest
  | @group room number inside fields start contents stop behind opens _ closes _ ihInside ih =>
    have taken := opens.take (contents ++ (stop ++ (behind ++ rest)))
    have deeper : (number :: groups).length + room = nestingLimit := by
      rw [List.length_cons]
      omega
    rw [List.append_assoc, List.append_assoc, List.append_assoc,
      skipGroups_start opened (by omega) taken,
      ihInside (List.cons_ne_nil _ _) deeper, skipGroups_stop (closes.take _)]
    exact ih opened limit rest

/-- Bytes that end open groups, innermost first: the fields that are left in each, and its end. -/
inductive Closes : Nat → List Nat → Bytes → Prop
  | nil {room : Nat} : Closes room [] []
  | cons {room number : Nat} {outer : List Nat} {fields : List Field}
      {contents stop rest : Bytes} :
      SpellsFields room fields contents → SpellsTag ⟨number, 4⟩ stop →
      Closes (room + 1) outer rest → Closes room (number :: outer) (contents ++ stop ++ rest)

theorem closes_of_skipGroups {room : Nat} (limit : groups.length + room = nestingLimit)
    (skipped : skipGroups groups bytes = .ok rest) :
    ∃ spelled, bytes = spelled ++ rest ∧ Closes room groups spelled := by
  -- Along the run, the open groups and the room for further ones make up the limit.
  fun_induction skipGroups groups bytes generalizing room with
  | case1 bytes =>
    cases skipped
    exact ⟨[], rfl, .nil⟩
  | case2 => cases skipped
  | case3 bytes outer tag more read stops ih =>
    have shallower : outer.length + (room + 1) = nestingLimit := by
      rw [List.length_cons] at limit
      omega
    obtain ⟨spelled, rfl, closes⟩ := ih shallower skipped
    obtain ⟨stop, rfl, spells⟩ := takeTag_eq_ok_iff.mp read
    obtain ⟨number, wireType⟩ := tag
    cases stops
    exact ⟨[] ++ stop ++ spelled, by simp, .cons .nil spells closes⟩
  | case4 => cases skipped
  | case5 bytes innermost outer tag more read notStop starts depth ih =>
    rw [if_pos depth] at skipped
    obtain ⟨deeper, rfl⟩ : ∃ deeper, room = deeper + 1 := ⟨room - 1, by omega⟩
    have opened : (tag.number :: innermost :: outer).length + deeper = nestingLimit := by
      simp only [List.length_cons] at limit ⊢
      omega
    obtain ⟨spelled, rfl, closes⟩ := ih opened skipped
    obtain ⟨start, rfl, opens⟩ := takeTag_eq_ok_iff.mp read
    obtain ⟨number, wireType⟩ := tag
    cases starts
    -- What closes the new group comes first: up to there, all is one field of the group around it.
    cases closes with
    | cons inside stop closes =>
      cases closes with
      | cons behind last closes =>
        exact ⟨_, by simp, .cons (.group opens inside stop behind) last closes⟩
  | case6 bytes innermost outer tag more read _ _ full =>
    rw [if_neg full] at skipped
    cases skipped
  | case7 => cases skipped
  | case8 bytes innermost outer tag more read notStop notStart payload behind valued ih =>
    obtain ⟨spelled, rfl, closes⟩ := ih limit skipped
    obtain ⟨start, rfl, tagged⟩ := takeTag_eq_ok_iff.mp read
    obtain ⟨kind, value, rfl, spells⟩ := takeScalar_eq_ok_iff.mp valued
    obtain ⟨number, wireType⟩ := tag
    cases kind
    cases closes with
    | cons inside stop closes =>
      exact ⟨_, by simp, .cons (.scalar tagged spells inside) stop closes⟩

end Groups

/-! ## Scanning -/

private theorem scan_cons {bytes behind rest : Bytes} {tag : Tag} {payload : Payload}
    (taken : takeTag bytes = .ok (tag, behind))
    (read : takePayload tag behind = .ok (payload, rest)) :
    scan bytes = (⟨tag.number, payload⟩ :: (scan rest).1, (scan rest).2) := by
  have some : bytes.isEmpty = false := by
    cases bytes with
    | nil => cases taken
    | cons => rfl
  rw [scan]
  split
  · simp_all
  · split
    · simp_all
    · split <;> simp_all

/-- Scanning finds the fields that bytes start with. -/
theorem SpellsFields.scan_append {room : Nat} {fields : List Field} {bytes : Bytes}
    (spells : SpellsFields room fields bytes) (whole : room = nestingLimit) (rest : Bytes) :
    scan (bytes ++ rest) = (fields ++ (scan rest).1, (scan rest).2) := by
  induction spells generalizing rest with
  | nil => rfl
  | @scalar room number payload fields tag value behind tagged valued _ ih =>
    have read : takePayload ⟨number, payload.wireType⟩ (value ++ (behind ++ rest)) =
        .ok (payload, behind ++ rest) := by
      rw [takePayload, if_neg valued.wireType_ne.1, valued.take]
    rw [List.append_assoc, List.append_assoc, scan_cons (tagged.take _) read, ih whole]
    rfl
  | @group room number inside fields start contents stop behind opens inner closes _ _ ih =>
    have read : takePayload ⟨number, 3⟩ (contents ++ (stop ++ (behind ++ rest))) =
        .ok (.group, behind ++ rest) := by
      have limit : [number].length + room = nestingLimit := by
        rw [List.length_singleton]
        omega
      rw [takePayload, if_pos rfl, inner.skip (List.cons_ne_nil _ _) limit,
        skipGroups_stop (closes.take _), skipGroups]
      rfl
    rw [List.append_assoc, List.append_assoc, List.append_assoc, scan_cons (opens.take _) read,
      ih whole]
    rfl

theorem spellsMessage_of_scan {fields : List Field} {bytes : Bytes}
    (scanned : scan bytes = (fields, none)) : SpellsMessage fields bytes := by
  fun_induction scan bytes generalizing fields with
  | case1 bytes empty =>
    cases scanned
    rw [List.isEmpty_iff.mp empty]
    exact .nil
  | case2 => cases scanned
  | case3 => cases scanned
  | case4 bytes _ tag behind read payload rest valued found fault inner ih =>
    cases scanned
    obtain ⟨start, rfl, tagged⟩ := takeTag_eq_ok_iff.mp read
    obtain ⟨number, wireType⟩ := tag
    have others := ih inner
    unfold takePayload at valued
    split at valued
    · next starts =>
      cases starts
      obtain ⟨more, skipped, ⟨⟩⟩ := Outcome.map_eq_ok_iff.mp valued
      obtain ⟨room, whole⟩ : ∃ room, nestingLimit = room + 1 := ⟨10000, rfl⟩
      have limit : [number].length + room = nestingLimit := by
        rw [List.length_singleton, whole, Nat.add_comm]
      obtain ⟨spelled, rfl, closes⟩ := closes_of_skipGroups limit skipped
      rw [SpellsMessage, whole] at others ⊢
      cases closes with
      | cons inside stop closes =>
        cases closes
        simpa using SpellsFields.group tagged inside stop others
    · obtain ⟨kind, value, rfl, spells⟩ := takeScalar_eq_ok_iff.mp valued
      cases kind
      simpa using SpellsFields.scalar tagged spells others

/-- Scanning succeeds exactly on the bytes that spell fields, and finds them. -/
theorem scan_eq_iff {fields : List Field} {bytes : Bytes} :
    scan bytes = (fields, none) ↔ SpellsMessage fields bytes := by
  refine ⟨spellsMessage_of_scan, fun spells => ?_⟩
  have none : scan [] = ([], none) := by rw [scan]; rfl
  have scanned := spells.scan_append rfl []
  rwa [List.append_nil, none, List.append_nil] at scanned

/-- Bytes spell at most one sequence of fields. -/
theorem SpellsFields.unique {first second : List Field} {bytes : Bytes}
    (former : SpellsMessage first bytes) (latter : SpellsMessage second bytes) :
    first = second := by
  have same := (scan_eq_iff.mpr former).symm.trans (scan_eq_iff.mpr latter)
  exact congrArg Prod.fst same

end StaticNet.Wire
