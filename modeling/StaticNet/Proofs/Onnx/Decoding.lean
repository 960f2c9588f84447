import StaticNet.Proofs.Onnx.Frame
import StaticNet.Proofs.Onnx.Payload

/-! # Reading serializations

A serialized model is read back. From the innermost messages outwards, the fields of each message
fit its schema, so that they are read; and each part of what is read is what its payloads spell.
-/

namespace StaticNet.Onnx

open Wire

variable {fields : List Field}

/-! ## Operator sets and dimensions -/

theorem OpsetWritten.fits {opset : OpsetRecord} (written : OpsetWritten opset fields) :
    ∀ field ∈ fields, opsetSchema.Fits field := by
  refine fits_of_payloads ?_
  simp only [opsetSchema, List.forall_mem_cons]
  exact ⟨written.domain.admits SpellsText.admits, written.version.admits SpellsInt.admits,
    List.forall_mem_nil _⟩

theorem OpsetWritten.reads {opset result : OpsetRecord} (written : OpsetWritten opset fields)
    (folded : fields.foldlM opsetField {} = .ok result) : result = opset := by
  have domain : result.domain = opset.domain :=
    written.domain.stored (fun _ _ _ handled => (opsetField_frame handled).domain)
      (fun _ _ => rfl) (fun _ _ => rfl) rfl SpellsText.decodes folded
  have version : result.version = opset.version :=
    written.version.stored (fun _ _ _ handled => (opsetField_frame handled).version)
      (fun _ _ => rfl) (fun _ _ => rfl) rfl SpellsInt.decodes folded
  cases opset
  cases result
  simp_all

theorem DimensionWritten.fits {dim : DimensionRecord} (written : DimensionWritten dim fields) :
    ∀ field ∈ fields, dimensionSchema.Fits field := by
  refine fits_of_payloads ?_
  simp only [dimensionSchema, List.forall_mem_cons]
  exact ⟨written.value.admits SpellsInt.admits, written.parameter.admits SpellsText.admits,
    List.forall_mem_nil _⟩

theorem DimensionWritten.reads {dim result : DimensionRecord}
    (written : DimensionWritten dim fields)
    (folded : fields.foldlM dimensionField {} = .ok result) : result = dim := by
  have value : result.value = dim.value :=
    written.value.stored (fun _ _ _ handled => (dimensionField_frame handled).value)
      (fun _ _ => rfl) (fun _ _ => rfl) rfl SpellsInt.decodes folded
  have parameter : result.parameter = dim.parameter :=
    written.parameter.stored (fun _ _ _ handled => (dimensionField_frame handled).parameter)
      (fun _ _ => rfl) (fun _ _ => rfl) rfl SpellsText.decodes folded
  cases dim
  cases result
  simp_all

/-! ## Values -/

theorem ShapeWritten.fits {dims : List DimensionRecord} (written : ShapeWritten dims fields) :
    ∀ field ∈ fields, shapeSchema.Fits field := by
  refine fits_of_payloads ?_
  simp only [shapeSchema, List.forall_mem_cons]
  exact ⟨written.dims.admits (SpellsRecord.admits DimensionWritten.fits), List.forall_mem_nil _⟩

theorem ShapeWritten.reads {dims : List DimensionRecord} {start result : ValueRecord}
    (written : ShapeWritten dims fields) (folded : fields.foldlM shapeField start = .ok result) :
    (result.dims, result.hasShape) = (start.dims ++ dims, start.hasShape) := by
  have held : result.dims = start.dims ++ dims :=
    written.dims.gathered (fun _ _ _ handled => (shapeField_frame handled).dims)
      (fun _ _ => rfl) (fun _ _ => rfl) (fun spelled read =>
        let ⟨_, written, folded⟩ := spelled.folded read
        written.reads folded)
      folded
  have kept : result.hasShape = start.hasShape :=
    foldlM_kept (fun _ _ _ handled => (shapeField_frame handled).hasShape) folded
  rw [held, kept]

/-- The value without a name that has the type. -/
def ValueType.place (type : ValueType) : ValueRecord where
  elementCode := type.elementCode
  dims := type.shape.getD []
  hasShape := type.shape.isSome

theorem TensorTypeWritten.fits {type : ValueType} (written : TensorTypeWritten type fields) :
    ∀ field ∈ fields, tensorTypeSchema.Fits field := by
  refine fits_of_payloads ?_
  simp only [tensorTypeSchema, List.forall_mem_cons]
  exact ⟨written.elementCode.admits SpellsShort.admits,
    written.shape.admits (SpellsRecord.admits ShapeWritten.fits), List.forall_mem_nil _⟩

theorem TensorTypeWritten.reads {type : ValueType} {start result : ValueRecord}
    (written : TensorTypeWritten type fields) (blank : start.unnamed = {})
    (folded : fields.foldlM tensorTypeField start = .ok result) :
    result.unnamed = type.place := by
  have none : start.elementCode = 0 := congrArg ValueRecord.elementCode blank
  have elementCode : result.elementCode = type.elementCode :=
    written.elementCode.stored (fun _ _ _ handled => (tensorTypeField_frame handled).elementCode)
      (fun _ _ => rfl) (fun _ _ => rfl) none SpellsShort.decodes
      folded
  -- The shape is read into the value itself: what was there comes first.
  have moves : Moves tensorTypeField 2 (fun value => (value.dims, value.hasShape))
      fun old payload next => ∀ {dims}, SpellsRecord ShapeWritten dims payload →
        next = (old.1 ++ dims, true) := by
    intro state payload next handled dims spelled
    obtain ⟨fields, written, folded⟩ := spelled.folded handled
    exact written.reads folded
  have shape : (result.dims, result.hasShape) =
      type.shape.toList.foldl (fun old dims => (old.1 ++ dims, true))
        (start.dims, start.hasShape) :=
    written.shape.moved _ moves (fun _ _ _ handled => (tensorTypeField_frame handled).shape)
      (fun spelled stepped => stepped spelled) folded
  obtain ⟨_, _, _, _⟩ := start
  obtain ⟨_, _, _, _⟩ := result
  obtain ⟨code, shape?⟩ := type
  cases shape? <;> simp_all [ValueRecord.unnamed, ValueType.place]

theorem TypeWritten.fits {type : ValueType} (written : TypeWritten type fields) :
    ∀ field ∈ fields, typeSchema.Fits field := by
  refine fits_of_payloads ?_
  simp only [typeSchema, List.forall_mem_cons]
  exact ⟨written.tensorType.admits (SpellsRecord.admits TensorTypeWritten.fits),
    List.forall_mem_nil _⟩

theorem TypeWritten.reads {type : ValueType} {start result : ValueRecord}
    (written : TypeWritten type fields) (blank : start.unnamed = {})
    (folded : fields.foldlM typeField start = .ok result) : result.unnamed = type.place := by
  have moves : Moves typeField 1 ValueRecord.unnamed fun old payload next => old = {} →
      ∀ {type}, SpellsRecord TensorTypeWritten type payload → next = type.place := by
    intro state payload next handled blank type spelled
    obtain ⟨fields, written, folded⟩ := spelled.folded handled
    exact written.reads blank folded
  exact written.tensorType.moved ValueType.place moves
    (fun _ _ _ handled other => congrArg _ (typeField_frame handled other)) blank
    (fun spelled stepped => stepped rfl spelled) folded

theorem ValueWritten.fits {value : ValueRecord} (written : ValueWritten value fields) :
    ∀ field ∈ fields, valueSchema.Fits field := by
  refine fits_of_payloads ?_
  simp only [valueSchema, List.forall_mem_cons]
  exact ⟨written.name.admits SpellsText.admits,
    written.type.admits (SpellsRecord.admits TypeWritten.fits), List.forall_mem_nil _⟩

theorem ValueWritten.reads {value result : ValueRecord} (written : ValueWritten value fields)
    (folded : fields.foldlM valueField {} = .ok result) : result = value := by
  have name : result.name = value.name :=
    written.name.stored (fun _ _ _ handled => (valueField_frame handled).name)
      (fun _ _ => rfl) (fun _ _ => rfl) rfl SpellsText.decodes folded
  have moves : Moves valueField 2 ValueRecord.unnamed fun old payload next => old = {} →
      ∀ {type}, SpellsRecord TypeWritten type payload → next = type.place := by
    intro state payload next handled blank type spelled
    obtain ⟨fields, written, folded⟩ := spelled.folded handled
    exact written.reads blank folded
  have type : result.unnamed = value.type.place :=
    written.type.moved ValueType.place moves
      (fun _ _ _ handled => (valueField_frame handled).type) rfl
      (fun spelled stepped => stepped rfl spelled) folded
  have shaped := written.shaped
  obtain ⟨_, _, _, _⟩ := result
  obtain ⟨_, _, dims, hasShape⟩ := value
  cases hasShape <;> simp_all [ValueRecord.unnamed, ValueType.place, ValueRecord.type]

/-! ## Tensors, attributes and nodes -/

theorem TensorWritten.fits {tensor : TensorRecord} (written : TensorWritten tensor fields) :
    ∀ field ∈ fields, tensorSchema.Fits field := by
  refine fits_of_payloads ?_
  simp only [tensorSchema, List.forall_mem_cons]
  exact ⟨written.dims.admits, written.elementCode.admits SpellsShort.admits,
    written.floats.admits, written.words32.admits, written.words64.admits,
    written.name.admits SpellsText.admits, written.raw.admits SpellsBytes.admits,
    written.doubles.admits, List.forall_mem_nil _⟩

theorem TensorWritten.reads {tensor result : TensorRecord} (written : TensorWritten tensor fields)
    (folded : fields.foldlM tensorField {} = .ok result) : result = tensor := by
  have dims : result.dims = tensor.dims :=
    written.dims.gathered (fun _ _ _ handled => (tensorField_frame handled).dims)
      (fun _ _ => rfl) (fun _ _ => rfl) unpacks_ints folded
  have elementCode : result.elementCode = tensor.elementCode :=
    written.elementCode.stored (fun _ _ _ handled => (tensorField_frame handled).elementCode)
      (fun _ _ => rfl) (fun _ _ => rfl) rfl SpellsShort.decodes folded
  have floats : result.floats = tensor.floats :=
    written.floats.gathered (fun _ _ _ handled => (tensorField_frame handled).floats)
      (fun _ _ => rfl) (fun _ _ => rfl) unpacks_floats folded
  have words32 : result.words32 = (tensor.words32.map Int32.toInt64).map Int64.toInt32 :=
    written.words32.stored (fun _ _ _ handled => (tensorField_frame handled).words32)
      (fun _ _ => rfl) (fun _ _ => rfl) unpacks_ints folded
  have words64 : result.words64 = tensor.words64 :=
    written.words64.gathered (fun _ _ _ handled => (tensorField_frame handled).words64)
      (fun _ _ => rfl) (fun _ _ => rfl) unpacks_ints folded
  have name : result.name = tensor.name :=
    written.name.stored (fun _ _ _ handled => (tensorField_frame handled).name)
      (fun _ _ => rfl) (fun _ _ => rfl) rfl SpellsText.decodes folded
  have raw : result.raw = tensor.raw :=
    written.raw.stored (fun _ _ _ handled => (tensorField_frame handled).raw)
      (fun _ _ => rfl) (fun _ _ => rfl) rfl SpellsBytes.decodes folded
  have doubles : result.doubles = tensor.doubles :=
    written.doubles.gathered (fun _ _ _ handled => (tensorField_frame handled).doubles)
      (fun _ _ => rfl) (fun _ _ => rfl) unpacks_doubles folded
  have signs : Int64.toInt32 ∘ Int32.toInt64 = id := funext Int32.toInt32_toInt64
  rw [List.map_map, signs, List.map_id] at words32
  cases tensor
  cases result
  simp_all

theorem AttributeWritten.fits {record : AttributeRecord}
    (written : AttributeWritten record fields) :
    ∀ field ∈ fields, attributeSchema.Fits field := by
  refine fits_of_payloads ?_
  simp only [attributeSchema, List.forall_mem_cons]
  exact ⟨written.name.admits SpellsText.admits, written.float.admits SpellsFloat.admits,
    written.int.admits SpellsInt.admits, written.text.admits SpellsBytes.admits,
    written.tensor.admits (SpellsRecord.admits TensorWritten.fits), written.floats.admits,
    written.ints.admits, written.texts.admits SpellsBytes.admits,
    written.kind.admits SpellsShort.admits, List.forall_mem_nil _⟩

private theorem settled_text {text other : Option Bytes} (same : text.getD [] = other.getD []) :
    (if text = some [] then none else text) = if other = some [] then none else other := by
  cases text <;> cases other <;> grind

theorem AttributeWritten.reads {record result : AttributeRecord}
    (written : AttributeWritten record fields)
    (folded : fields.foldlM attributeField {} = .ok result) :
    result.settled = record.settled := by
  have name : result.name = record.name :=
    written.name.stored (fun _ _ _ handled => (attributeField_frame handled).name)
      (fun _ _ => rfl) (fun _ _ => rfl) rfl SpellsText.decodes folded
  -- A field of a single number may hold several, and then it is passed over.
  have moves : Moves attributeField 2 AttributeRecord.float fun old payload next =>
      ∃ floats, floatsOf ⟨2, payload⟩ = .ok floats ∧ next = onlyFloat old floats :=
    Puts.moves (fun _ _ => rfl) onlyFloat fun _ _ => rfl
  have float : result.float = record.float := by
    refine written.float.moved id moves
      (fun _ _ _ handled => (attributeField_frame handled).float) rfl ?_ folded
    rintro payload next rfl ⟨floats, read, rfl⟩
    cases (unpacks_floats.one record.float).symm.trans read
    rfl
  have int : result.int = record.int :=
    written.int.stored (fun _ _ _ handled => (attributeField_frame handled).int)
      (fun _ _ => rfl) (fun _ _ => rfl) rfl SpellsInt.decodes folded
  have text : result.bytes = record.bytes :=
    written.text.stored (fun _ _ _ handled other =>
        congrArg (·.getD []) ((attributeField_frame handled).text other))
      (fun _ _ => rfl) (fun _ _ => rfl) rfl SpellsBytes.decodes folded
  have tensor : result.tensor = record.tensor.map id := 
    written.tensor.storedLast (fun _ _ _ handled => (attributeField_frame handled).tensor)
      (fun _ _ => rfl) (fun _ _ => rfl) rfl
      (fun spelled read =>
        let ⟨_, written, folded⟩ := spelled.folded read
        written.reads folded)
      folded
  have floats : result.floats = record.floats :=
    written.floats.gathered (fun _ _ _ handled => (attributeField_frame handled).floats)
      (fun _ _ => rfl) (fun _ _ => rfl) unpacks_floats folded
  have ints : result.ints = record.ints :=
    written.ints.gathered (fun _ _ _ handled => (attributeField_frame handled).ints)
      (fun _ _ => rfl) (fun _ _ => rfl) unpacks_ints folded
  have texts : result.texts = record.texts :=
    written.texts.gathered (fun _ _ _ handled => (attributeField_frame handled).texts)
      (fun _ _ => rfl) (fun _ _ => rfl) SpellsBytes.decodes folded
  have kind : result.kind = record.kind :=
    written.kind.stored (fun _ _ _ handled => (attributeField_frame handled).kind)
      (fun _ _ => rfl) (fun _ _ => rfl) rfl SpellsShort.decodes folded
  rw [Option.map_id] at tensor
  cases record
  cases result
  simp_all [AttributeRecord.settled, settled_text text]

theorem NodeWritten.fits {node : NodeRecord} (written : NodeWritten node fields) :
    ∀ field ∈ fields, nodeSchema.Fits field := by
  refine fits_of_payloads ?_
  simp only [nodeSchema, List.forall_mem_cons]
  exact ⟨written.inputs.admits SpellsText.admits, written.outputs.admits SpellsText.admits,
    written.name.admits SpellsText.admits, written.op.admits SpellsText.admits,
    written.attributes.admits (SpellsRecord.admits AttributeWritten.fits),
    written.domain.admits SpellsText.admits, List.forall_mem_nil _⟩

theorem NodeWritten.reads {node result : NodeRecord} (written : NodeWritten node fields)
    (folded : fields.foldlM nodeField {} = .ok result) : result.settled = node.settled := by
  have inputs : result.inputs = node.inputs :=
    written.inputs.gathered (fun _ _ _ handled => (nodeField_frame handled).inputs)
      (fun _ _ => rfl) (fun _ _ => rfl) SpellsText.decodes folded
  have outputs : result.outputs = node.outputs :=
    written.outputs.gathered (fun _ _ _ handled => (nodeField_frame handled).outputs)
      (fun _ _ => rfl) (fun _ _ => rfl) SpellsText.decodes folded
  have name : result.name = node.name :=
    written.name.stored (fun _ _ _ handled => (nodeField_frame handled).name)
      (fun _ _ => rfl) (fun _ _ => rfl) rfl SpellsText.decodes folded
  have op : result.op = node.op :=
    written.op.stored (fun _ _ _ handled => (nodeField_frame handled).op)
      (fun _ _ => rfl) (fun _ _ => rfl) rfl SpellsText.decodes folded
  have frames : Frames nodeField 5 fun node => node.attributes.map AttributeRecord.settled :=
    fun _ _ _ handled other => congrArg _ ((nodeField_frame handled).attributes other)
  have attributes := written.attributes.stored frames (fun _ _ => rfl)
    (fun _ _ => List.map_append)
    (fun spelled read =>
      let ⟨_, written, folded⟩ := spelled.folded read
      written.reads folded)
    folded
  have domain : result.domain = node.domain :=
    written.domain.stored (fun _ _ _ handled => (nodeField_frame handled).domain)
      (fun _ _ => rfl) (fun _ _ => rfl) rfl SpellsText.decodes folded
  cases node
  cases result
  simp_all [NodeRecord.settled]

/-! ## Graphs and models -/

theorem GraphWritten.fits {graph : GraphRecord} (written : GraphWritten graph fields) :
    ∀ field ∈ fields, graphSchema.Fits field := by
  refine fits_of_payloads ?_
  simp only [graphSchema, List.forall_mem_cons]
  exact ⟨written.nodes.admits (SpellsRecord.admits NodeWritten.fits),
    written.name.admits SpellsText.admits,
    written.initializers.admits (SpellsRecord.admits TensorWritten.fits),
    written.inputs.admits (SpellsRecord.admits ValueWritten.fits),
    written.outputs.admits (SpellsRecord.admits ValueWritten.fits),
    written.values.admits (SpellsRecord.admits ValueWritten.fits), List.forall_mem_nil _⟩

private theorem TensorWritten.decodes {number : Nat} {tensor next : TensorRecord}
    {payload : Payload} (spelled : SpellsRecord TensorWritten tensor payload)
    (read : messageOf tensorField {} ⟨number, payload⟩ = .ok next) : next = tensor := by
  obtain ⟨fields, written, folded⟩ := spelled.folded read
  exact written.reads folded

private theorem ValueWritten.decodes {number : Nat} {value next : ValueRecord}
    {payload : Payload} (spelled : SpellsRecord ValueWritten value payload)
    (read : messageOf valueField {} ⟨number, payload⟩ = .ok next) : next = value := by
  obtain ⟨fields, written, folded⟩ := spelled.folded read
  exact written.reads folded

theorem GraphWritten.reads {graph result : GraphRecord} (written : GraphWritten graph fields)
    (folded : fields.foldlM graphField {} = .ok result) : result.settled = graph.settled := by
  have frames : Frames graphField 1 fun graph => graph.nodes.map NodeRecord.settled :=
    fun _ _ _ handled other => congrArg _ ((graphField_frame handled).nodes other)
  have nodes := written.nodes.stored frames (fun _ _ => rfl) (fun _ _ => List.map_append)
    (fun spelled read =>
      let ⟨_, written, folded⟩ := spelled.folded read
      written.reads folded)
    folded
  have name : result.name = graph.name :=
    written.name.stored (fun _ _ _ handled => (graphField_frame handled).name)
      (fun _ _ => rfl) (fun _ _ => rfl) rfl SpellsText.decodes folded
  have initializers : result.initializers = graph.initializers :=
    written.initializers.gathered (fun _ _ _ handled => (graphField_frame handled).initializers)
      (fun _ _ => rfl) (fun _ _ => rfl) TensorWritten.decodes folded
  have inputs : result.inputs = graph.inputs :=
    written.inputs.gathered (fun _ _ _ handled => (graphField_frame handled).inputs)
      (fun _ _ => rfl) (fun _ _ => rfl) ValueWritten.decodes folded
  have outputs : result.outputs = graph.outputs :=
    written.outputs.gathered (fun _ _ _ handled => (graphField_frame handled).outputs)
      (fun _ _ => rfl) (fun _ _ => rfl) ValueWritten.decodes folded
  have values : result.values = graph.values :=
    written.values.gathered (fun _ _ _ handled => (graphField_frame handled).values)
      (fun _ _ => rfl) (fun _ _ => rfl) ValueWritten.decodes folded
  cases graph
  cases result
  simp_all [GraphRecord.settled]

theorem ModelWritten.fits {model : ModelRecord} (written : ModelWritten model fields) :
    ∀ field ∈ fields, modelSchema.Fits field := by
  refine fits_of_payloads ?_
  simp only [modelSchema, List.forall_mem_cons]
  exact ⟨written.irVersion.admits SpellsInt.admits, written.producer.admits SpellsText.admits,
    written.producerVersion.admits SpellsText.admits,
    written.graph.admits (SpellsRecord.admits GraphWritten.fits),
    written.opsets.admits (SpellsRecord.admits OpsetWritten.fits), List.forall_mem_nil _⟩

theorem ModelWritten.reads {model result : ModelRecord} (written : ModelWritten model fields)
    (folded : fields.foldlM modelField {} = .ok result) : result.settled = model.settled := by
  have irVersion : result.irVersion = model.irVersion :=
    written.irVersion.stored (fun _ _ _ handled => (modelField_frame handled).irVersion)
      (fun _ _ => rfl) (fun _ _ => rfl) rfl SpellsInt.decodes folded
  have producer : result.producer = model.producer :=
    written.producer.stored (fun _ _ _ handled => (modelField_frame handled).producer)
      (fun _ _ => rfl) (fun _ _ => rfl) rfl SpellsText.decodes folded
  have producerVersion : result.producerVersion = model.producerVersion :=
    written.producerVersion.stored (fun _ _ _ handled => (modelField_frame handled).producerVersion)
      (fun _ _ => rfl) (fun _ _ => rfl) rfl SpellsText.decodes folded
  have frames : Frames modelField 7 fun model => model.graph.map GraphRecord.settled :=
    fun _ _ _ handled other => congrArg _ ((modelField_frame handled).graph other)
  have graph := written.graph.storedLast frames (fun _ _ => rfl) (fun _ _ => rfl) rfl
    (fun spelled read =>
      let ⟨_, written, folded⟩ := spelled.folded read
      written.reads folded)
    folded
  have opsets : result.opsets = model.opsets :=
    written.opsets.gathered (fun _ _ _ handled => (modelField_frame handled).opsets)
      (fun _ _ => rfl) (fun _ _ => rfl)
      (fun spelled read =>
        let ⟨_, written, folded⟩ := spelled.folded read
        written.reads folded)
      folded
  cases model
  cases result
  simp_all [ModelRecord.settled]

/-- Every serialization of a model with a graph is read, and gives the model back. -/
theorem parse_of_serializes {model : ModelRecord} {bytes : Bytes}
    (graph : model.graph.isSome = true) (serialized : Serializes ModelWritten model bytes) :
    (parse bytes).map ModelRecord.settled = .ok model.settled := by
  obtain ⟨fields, spells, written⟩ := serialized
  obtain ⟨result, folded⟩ := (modelField_handles.accepts_fields {} fields).mpr written.fits
  have settled := written.reads folded
  have holds : result.graph.isSome = true := by
    have same := congrArg (fun model => model.graph.isSome) settled
    simpa [ModelRecord.settled, graph] using same
  rw [parse_of_read (readMessage_eq_ok_iff.mpr ⟨fields, spells, folded⟩), if_pos holds]
  exact congrArg Except.ok settled

/-- A model whose graph has an input with a shape and a tensor of two dimensions. -/
def sampleModel : ModelRecord where
  irVersion := 7
  graph := some {
    inputs := [{ name := "x", elementCode := 1, dims := [{ value := 2 }], hasShape := true }]
    initializers := [{ elementCode := 7, dims := [1, 2] }] }

/-- The sample with its graph first, an empty group that no model has, the type of the input before
its name, and one of the dimensions of the tensor in a block. -/
def sampleBytes : Bytes :=
  [0x3a, 26, 0x2a, 7, 0x0a, 1, 1, 0x10, 7, 0x08, 2, 0x5a, 15, 0x12, 10, 0x0a, 8, 0x12, 4, 0x0a, 2,
    0x08, 2, 0x08, 1, 0x0a, 1, 0x78, 0x7b, 0x7c, 0x08, 7]

theorem parse_sample : Serializes ModelWritten sampleModel sampleBytes ∧
    (parse sampleBytes).map ModelRecord.settled = .ok sampleModel.settled := by
  have block : PackedInts [1] [1] := .cons (spellsVarint_single (by decide) rfl) .nil
  have dims : Ints ([1] ++ [2]) [.bytes [1], .varint 2] := .block block (.single .nil)
  have tensor : Serializes TensorWritten { elementCode := 7, dims := [1, 2] }
      [0x0a, 1, 1, 0x10, 7, 0x08, 2] :=
    ⟨[⟨1, .bytes [1]⟩, ⟨2, .varint 7⟩, ⟨1, .varint 2⟩], scan_eq_iff.mp (by decide +kernel),
      dims, .written rfl, .nil, .nil, .nil, .omitted, .omitted, .nil⟩
  have dim : Serializes DimensionWritten { value := 2 } [0x08, 2] :=
    ⟨[⟨1, .varint 2⟩], scan_eq_iff.mp (by decide +kernel), .written rfl, .omitted⟩
  have shape : Serializes ShapeWritten [{ value := 2 }] [0x0a, 2, 0x08, 2] :=
    ⟨[⟨1, .bytes [0x08, 2]⟩], scan_eq_iff.mp (by decide +kernel), ⟨.cons ⟨_, rfl, dim⟩ .nil⟩⟩
  have tensorType : Serializes TensorTypeWritten ⟨1, some [{ value := 2 }]⟩
      [0x12, 4, 0x0a, 2, 0x08, 2, 0x08, 1] :=
    ⟨[⟨2, .bytes [0x0a, 2, 0x08, 2]⟩, ⟨1, .varint 1⟩], scan_eq_iff.mp (by decide +kernel),
      .written rfl, .cons ⟨_, rfl, shape⟩ .nil⟩
  have type : Serializes TypeWritten ⟨1, some [{ value := 2 }]⟩
      [0x0a, 8, 0x12, 4, 0x0a, 2, 0x08, 2, 0x08, 1] :=
    ⟨[⟨1, .bytes [0x12, 4, 0x0a, 2, 0x08, 2, 0x08, 1]⟩], scan_eq_iff.mp (by decide +kernel),
      ⟨.written ⟨_, rfl, tensorType⟩⟩⟩
  have value : Serializes ValueWritten
      { name := "x", elementCode := 1, dims := [{ value := 2 }], hasShape := true }
      [0x12, 10, 0x0a, 8, 0x12, 4, 0x0a, 2, 0x08, 2, 0x08, 1, 0x0a, 1, 0x78] :=
    ⟨[⟨2, .bytes [0x0a, 8, 0x12, 4, 0x0a, 2, 0x08, 2, 0x08, 1]⟩, ⟨1, .bytes [0x78]⟩],
      scan_eq_iff.mp (by decide +kernel), fun _ => rfl, .written ⟨[0x78], rfl, by decide +kernel⟩,
      .written ⟨_, rfl, type⟩⟩
  have graph : Serializes GraphWritten (sampleModel.graph.get rfl)
      (sampleBytes.drop 2 |>.take 26) :=
    ⟨[⟨5, .bytes [0x0a, 1, 1, 0x10, 7, 0x08, 2]⟩, ⟨11, .bytes (sampleBytes.drop 13 |>.take 15)⟩],
      scan_eq_iff.mp (by decide +kernel),
      .nil, .omitted, .cons ⟨_, rfl, tensor⟩ .nil, .cons ⟨_, rfl, value⟩ .nil, .nil, .nil⟩
  have serialized : Serializes ModelWritten sampleModel sampleBytes :=
    ⟨[⟨7, .bytes (sampleBytes.drop 2 |>.take 26)⟩, ⟨15, .group⟩, ⟨1, .varint 7⟩],
      scan_eq_iff.mp (by decide +kernel),
      .written rfl, .omitted, .omitted, .cons ⟨_, rfl, graph⟩ .nil, .nil⟩
  exact ⟨serialized, parse_of_serializes rfl serialized⟩

end StaticNet.Onnx
