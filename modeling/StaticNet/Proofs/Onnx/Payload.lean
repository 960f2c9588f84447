import StaticNet.Proofs.Onnx.Part

/-! # Payloads of serializations

A payload that spells a value is of the kind that its field is to hold, and the value is what is
read from it.
-/

namespace StaticNet.Onnx

open Wire

/-! ## Kinds -/

section Kinds

variable {α : Type} {kind : Kind} {held : List Payload} {payload : Payload}

/-- Fields fit a schema if all payloads under its numbers do. -/
theorem fits_of_payloads {schema : Schema} {fields : List Field}
    (admits : ∀ entry ∈ schema, ∀ payload ∈ payloads entry.1 fields, Admits entry.2 payload) :
    ∀ field ∈ fields, schema.Fits field := by
  intro field member kind entry
  refine admits _ entry field.payload (List.mem_filterMap.mpr ⟨field, member, ?_⟩)
  exact if_pos rfl

theorem Once.admits {spells : α → Payload → Prop} {zero value : α}
    (once : Once spells zero value held)
    (kindOf : ∀ {value payload}, spells value payload → Admits kind payload) :
    ∀ payload ∈ held, Admits kind payload := by
  cases once with
  | omitted => nofun
  | written spelled =>
    intro payload member
    cases List.mem_singleton.mp member
    exact kindOf spelled

theorem Each.admits {spells : α → Payload → Prop} {values : List α}
    (each : Each spells values held)
    (kindOf : ∀ {value payload}, spells value payload → Admits kind payload) :
    ∀ payload ∈ held, Admits kind payload := by
  induction each with
  | nil => nofun
  | cons spelled _ ih => exact List.forall_mem_cons.mpr ⟨kindOf spelled, ih⟩

theorem Packed.admits {single : α → Payload} {packed : List α → Bytes → Prop} {values : List α}
    (each : Packed single packed values held) (one : ∀ value, Admits kind (single value))
    (block : ∀ {chunk data}, packed chunk data → Admits kind (.bytes data)) :
    ∀ payload ∈ held, Admits kind payload := by
  induction each with
  | nil => nofun
  | single _ ih => exact List.forall_mem_cons.mpr ⟨one _, ih⟩
  | block spelled _ ih => exact List.forall_mem_cons.mpr ⟨block spelled, ih⟩

theorem SpellsInt.admits {value : Int64} (spelled : SpellsInt value payload) :
    Admits .int payload := by
  cases spelled
  exact .int

theorem SpellsShort.admits {value : Int32} (spelled : SpellsShort value payload) :
    Admits .int payload := SpellsInt.admits spelled

theorem SpellsBytes.admits {value : Bytes} (spelled : SpellsBytes value payload) :
    Admits .bytes payload := by
  cases spelled
  exact .bytes

theorem SpellsText.admits {value : String} (spelled : SpellsText value payload) :
    Admits .bytes payload := by
  obtain ⟨data, rfl, -⟩ := spelled
  exact .bytes

theorem SpellsFloat.admits {value : Binary32} (spelled : SpellsFloat value payload) :
    Admits .floats payload := by
  cases spelled
  exact .oneFloat

theorem PackedInts.whole {values : List Int64} {data : Bytes} (packed : PackedInts values data) :
    WholeVarints data := by
  induction packed with
  | nil => exact .nil
  | cons spells _ ih => exact .cons spells ih

theorem length_floatBytes (value : Binary32) : (floatBytes value).length = 4 :=
  Bytes.length_ofWord value.bits

theorem length_doubleBytes (value : Binary64) : (doubleBytes value).length = 8 :=
  Bytes.length_ofNat 8 value.bits.toNat

theorem Ints.admits {values : List Int64} (each : Ints values held) :
    ∀ payload ∈ held, Admits .ints payload :=
  Packed.admits each (fun _ => .oneInt) fun packed => .packedInts packed.whole

theorem Floats.admits {values : List Binary32} (each : Floats values held) :
    ∀ payload ∈ held, Admits .floats payload := by
  refine Packed.admits each (fun _ => .oneFloat) fun {chunk data} packed => .packedFloats ?_
  cases packed
  exact ⟨_, Bytes.length_flatMap_encode length_floatBytes chunk⟩

theorem Doubles.admits {values : List Binary64} (each : Doubles values held) :
    ∀ payload ∈ held, Admits .doubles payload := by
  refine Packed.admits each (fun _ => .oneDouble) fun {chunk data} packed => .packedDoubles ?_
  cases packed
  exact ⟨_, Bytes.length_flatMap_encode length_doubleBytes chunk⟩

theorem SpellsRecord.admits {written : α → List Field → Prop} {value : α} {schema : Schema}
    (fits : ∀ {value fields}, written value fields → ∀ field ∈ fields, schema.Fits field)
    (spelled : SpellsRecord written value payload) : Admits (.message schema) payload := by
  obtain ⟨data, rfl, fields, spells, stands⟩ := spelled
  exact .message spells (fits stands)

end Kinds

/-! ## Values -/

section Values

variable {number : Nat} {payload : Payload}

theorem SpellsBytes.decodes {value next : Bytes} (spelled : SpellsBytes value payload)
    (read : bytesOf ⟨number, payload⟩ = .ok next) : next = value := by
  cases spelled
  cases read
  rfl

theorem SpellsText.decodes {value next : String} (spelled : SpellsText value payload)
    (read : textOf ⟨number, payload⟩ = .ok next) : next = value := by
  obtain ⟨data, rfl, rfl⟩ := spelled
  cases read
  rfl

theorem signed_toUInt64 (value : Int64) : signed value.toUInt64.toNat = value := by
  rw [signed, ← Int64.toBitVec_inj]
  simp

theorem SpellsInt.decodes {value next : Int64} (spelled : SpellsInt value payload)
    (read : intOf ⟨number, payload⟩ = .ok next) : next = value := by
  cases spelled
  cases read
  exact signed_toUInt64 value

theorem SpellsShort.decodes {value next : Int32} (spelled : SpellsShort value payload)
    (read : shortOf ⟨number, payload⟩ = .ok next) : next = value := by
  cases spelled
  cases read
  rw [signed_toUInt64, Int32.toInt32_toInt64]

theorem PackedInts.decodes {values : List Int64} {data : Bytes} (packed : PackedInts values data) :
    packedInts data = .ok values := by
  induction packed with
  | nil =>
    rw [packedInts]
    rfl
  | @cons value values first rest spells _ ih =>
    rw [packedInts_append spells, ih, signed_toUInt64]
    rfl

theorem unpacks_ints :
    Unpacks intPayload PackedInts fun payload => intsOf ⟨number, payload⟩ where
  one value := by
    dsimp only [intPayload, intsOf]
    rw [signed_toUInt64]
  block := PackedInts.decodes

theorem ofPattern_floatBytes (value : Binary32) :
    Binary32.ofPattern (floatBytes value).toNat = value := by
  rw [floatBytes, Bytes.toNat_ofWord, Binary32.ofPattern, UInt32.ofNat_toNat]

theorem ofPattern_doubleBytes (value : Binary64) :
    Binary64.ofPattern (doubleBytes value).toNat = value := by
  rw [doubleBytes, Bytes.toNat_ofLong, Binary64.ofPattern, UInt64.ofNat_toNat]

theorem unpacks_floats :
    Unpacks floatPayload PackedFloats fun payload => floatsOf ⟨number, payload⟩ where
  one value := by
    dsimp only [floatPayload, floatsOf, Binary32.ofPattern]
    rw [UInt32.ofNat_toNat]
  block {chunk data} packed := by
    cases packed
    dsimp only [floatsOf]
    rw [Bytes.length_flatMap_encode length_floatBytes, if_neg (by simp),
      Bytes.blocks_flatMap (by decide) length_floatBytes, List.map_map]
    simp only [Function.comp_def, ofPattern_floatBytes, List.map_id']

theorem unpacks_doubles :
    Unpacks doublePayload PackedDoubles fun payload => doublesOf ⟨number, payload⟩ where
  one value := by
    dsimp only [doublePayload, doublesOf, Binary64.ofPattern]
    rw [UInt64.ofNat_toNat]
  block {chunk data} packed := by
    cases packed
    dsimp only [doublesOf]
    rw [Bytes.length_flatMap_encode length_doubleBytes, if_neg (by simp),
      Bytes.blocks_flatMap (by decide) length_doubleBytes, List.map_map]
    simp only [Function.comp_def, ofPattern_doubleBytes, List.map_id']

/-- What is read from a message comes from fields that stand for its value. -/
theorem SpellsRecord.folded {α σ : Type} {written : α → List Field → Prop}
    {handle : σ → Field → Read σ} {start next : σ} {value : α}
    (spelled : SpellsRecord written value payload)
    (read : messageOf handle start ⟨number, payload⟩ = .ok next) :
    ∃ fields, written value fields ∧ fields.foldlM handle start = .ok next := by
  obtain ⟨data, rfl, fields, spells, stands⟩ := spelled
  obtain ⟨found, others, folded⟩ := readMessage_eq_ok_iff.mp read
  cases others.unique spells
  exact ⟨fields, stands, folded⟩

end Values

end StaticNet.Onnx
