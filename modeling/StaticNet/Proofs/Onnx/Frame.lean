import StaticNet.Proofs.Onnx.Part

/-! # What a field leaves alone

A field of a message changes the part of the record that has its number, and no other part. The
fields of a type change a value in place, and never its name.
-/

namespace StaticNet.Onnx

open Wire

structure OpsetFrame (number : Nat) (opset next : OpsetRecord) : Prop where
  domain : number ≠ 1 → next.domain = opset.domain
  version : number ≠ 2 → next.version = opset.version

theorem opsetField_frame {opset next : OpsetRecord} {field : Field}
    (handled : opsetField opset field = .ok next) : OpsetFrame field.number opset next := by
  unfold opsetField at handled
  split at handled
  case h_3 =>
    cases handled
    constructor <;> exact fun _ => rfl
  all_goals
    obtain ⟨value, -, ⟨⟩⟩ := Outcome.bind_eq_ok_iff.mp handled
    constructor <;> simp_all

structure DimensionFrame (number : Nat) (dim next : DimensionRecord) : Prop where
  value : number ≠ 1 → next.value = dim.value
  parameter : number ≠ 2 → next.parameter = dim.parameter

theorem dimensionField_frame {dim next : DimensionRecord} {field : Field}
    (handled : dimensionField dim field = .ok next) : DimensionFrame field.number dim next := by
  unfold dimensionField at handled
  split at handled
  case h_3 =>
    cases handled
    constructor <;> exact fun _ => rfl
  all_goals
    obtain ⟨value, -, ⟨⟩⟩ := Outcome.bind_eq_ok_iff.mp handled
    constructor <;> simp_all

/-! ## Values -/

structure ShapeFrame (number : Nat) (value next : ValueRecord) : Prop where
  name : next.name = value.name
  elementCode : next.elementCode = value.elementCode
  hasShape : next.hasShape = value.hasShape
  dims : number ≠ 1 → next.dims = value.dims

theorem shapeField_frame {value next : ValueRecord} {field : Field}
    (handled : shapeField value field = .ok next) : ShapeFrame field.number value next := by
  unfold shapeField at handled
  split at handled
  · obtain ⟨dim, -, ⟨⟩⟩ := Outcome.bind_eq_ok_iff.mp handled
    constructor <;> simp_all
  · cases handled
    constructor <;> simp

structure TensorTypeFrame (number : Nat) (value next : ValueRecord) : Prop where
  name : next.name = value.name
  elementCode : number ≠ 1 → next.elementCode = value.elementCode
  shape : number ≠ 2 → (next.dims, next.hasShape) = (value.dims, value.hasShape)

theorem tensorTypeField_frame {value next : ValueRecord} {field : Field}
    (handled : tensorTypeField value field = .ok next) :
    TensorTypeFrame field.number value next := by
  unfold tensorTypeField at handled
  split at handled
  · obtain ⟨code, -, ⟨⟩⟩ := Outcome.bind_eq_ok_iff.mp handled
    constructor <;> simp_all
  · have name := messageOf_kept (fun _ _ _ handled => (shapeField_frame handled).name) handled
    have code :=
      messageOf_kept (fun _ _ _ handled => (shapeField_frame handled).elementCode) handled
    constructor <;> simp_all
  · cases handled
    constructor <;> simp

theorem typeField_name {value next : ValueRecord} {field : Field}
    (handled : typeField value field = .ok next) : next.name = value.name := by
  unfold typeField at handled
  split at handled
  · exact messageOf_kept (fun _ _ _ handled => (tensorTypeField_frame handled).name) handled
  · cases handled
    rfl

theorem typeField_frame {value next : ValueRecord} {field : Field}
    (handled : typeField value field = .ok next) (other : field.number ≠ 1) : next = value := by
  unfold typeField at handled
  split at handled
  · next same => exact absurd same other
  · cases handled
    rfl

/-- A value apart from its name. -/
def ValueRecord.unnamed (value : ValueRecord) : ValueRecord := { value with name := "" }

structure ValueFrame (number : Nat) (value next : ValueRecord) : Prop where
  name : number ≠ 1 → next.name = value.name
  type : number ≠ 2 → next.unnamed = value.unnamed

theorem valueField_frame {value next : ValueRecord} {field : Field}
    (handled : valueField value field = .ok next) : ValueFrame field.number value next := by
  unfold valueField at handled
  split at handled
  · obtain ⟨name, -, ⟨⟩⟩ := Outcome.bind_eq_ok_iff.mp handled
    constructor <;> simp_all [ValueRecord.unnamed]
  · have kept := messageOf_kept (fun _ _ _ handled => typeField_name handled) handled
    constructor <;> simp_all
  · cases handled
    constructor <;> exact fun _ => rfl

/-! ## Tensors, attributes and nodes -/

structure TensorFrame (number : Nat) (tensor next : TensorRecord) : Prop where
  dims : number ≠ 1 → next.dims = tensor.dims
  elementCode : number ≠ 2 → next.elementCode = tensor.elementCode
  floats : number ≠ 4 → next.floats = tensor.floats
  words32 : number ≠ 5 → next.words32 = tensor.words32
  words64 : number ≠ 7 → next.words64 = tensor.words64
  name : number ≠ 8 → next.name = tensor.name
  raw : number ≠ 9 → next.raw = tensor.raw
  doubles : number ≠ 10 → next.doubles = tensor.doubles

theorem tensorField_frame {tensor next : TensorRecord} {field : Field}
    (handled : tensorField tensor field = .ok next) : TensorFrame field.number tensor next := by
  unfold tensorField at handled
  split at handled
  case h_9 =>
    cases handled
    constructor <;> exact fun _ => rfl
  all_goals
    obtain ⟨value, -, ⟨⟩⟩ := Outcome.bind_eq_ok_iff.mp handled
    constructor <;> simp_all

structure AttributeFrame (number : Nat) (record next : AttributeRecord) : Prop where
  name : number ≠ 1 → next.name = record.name
  float : number ≠ 2 → next.float = record.float
  int : number ≠ 3 → next.int = record.int
  text : number ≠ 4 → next.text = record.text
  tensor : number ≠ 5 → next.tensor = record.tensor
  floats : number ≠ 7 → next.floats = record.floats
  ints : number ≠ 8 → next.ints = record.ints
  texts : number ≠ 9 → next.texts = record.texts
  kind : number ≠ 20 → next.kind = record.kind

theorem attributeField_frame {record next : AttributeRecord} {field : Field}
    (handled : attributeField record field = .ok next) :
    AttributeFrame field.number record next := by
  unfold attributeField at handled
  split at handled
  case h_10 =>
    cases handled
    constructor <;> exact fun _ => rfl
  all_goals
    obtain ⟨value, -, ⟨⟩⟩ := Outcome.bind_eq_ok_iff.mp handled
    constructor <;> simp_all

structure NodeFrame (number : Nat) (node next : NodeRecord) : Prop where
  inputs : number ≠ 1 → next.inputs = node.inputs
  outputs : number ≠ 2 → next.outputs = node.outputs
  name : number ≠ 3 → next.name = node.name
  op : number ≠ 4 → next.op = node.op
  attributes : number ≠ 5 → next.attributes = node.attributes
  domain : number ≠ 7 → next.domain = node.domain

theorem nodeField_frame {node next : NodeRecord} {field : Field}
    (handled : nodeField node field = .ok next) : NodeFrame field.number node next := by
  unfold nodeField at handled
  split at handled
  case h_7 =>
    cases handled
    constructor <;> exact fun _ => rfl
  all_goals
    obtain ⟨value, -, ⟨⟩⟩ := Outcome.bind_eq_ok_iff.mp handled
    constructor <;> simp_all

/-! ## Graphs and models -/

structure GraphFrame (number : Nat) (graph next : GraphRecord) : Prop where
  nodes : number ≠ 1 → next.nodes = graph.nodes
  name : number ≠ 2 → next.name = graph.name
  initializers : number ≠ 5 → next.initializers = graph.initializers
  inputs : number ≠ 11 → next.inputs = graph.inputs
  outputs : number ≠ 12 → next.outputs = graph.outputs
  values : number ≠ 13 → next.values = graph.values

theorem graphField_frame {graph next : GraphRecord} {field : Field}
    (handled : graphField graph field = .ok next) : GraphFrame field.number graph next := by
  unfold graphField at handled
  split at handled
  case h_7 =>
    cases handled
    constructor <;> exact fun _ => rfl
  all_goals
    obtain ⟨value, -, ⟨⟩⟩ := Outcome.bind_eq_ok_iff.mp handled
    constructor <;> simp_all

structure ModelFrame (number : Nat) (model next : ModelRecord) : Prop where
  irVersion : number ≠ 1 → next.irVersion = model.irVersion
  producer : number ≠ 2 → next.producer = model.producer
  producerVersion : number ≠ 3 → next.producerVersion = model.producerVersion
  graph : number ≠ 7 → next.graph = model.graph
  opsets : number ≠ 8 → next.opsets = model.opsets

theorem modelField_frame {model next : ModelRecord} {field : Field}
    (handled : modelField model field = .ok next) : ModelFrame field.number model next := by
  unfold modelField at handled
  split at handled
  case h_6 =>
    cases handled
    constructor <;> exact fun _ => rfl
  all_goals
    obtain ⟨value, -, ⟨⟩⟩ := Outcome.bind_eq_ok_iff.mp handled
    constructor <;> simp_all

end StaticNet.Onnx
