import StaticNet.Onnx.Record
import StaticNet.Proofs.Wire.Scanning
import StaticNet.Text.Utf8

/-! # Serializations of models

Which bytes stand for a model. A message says nothing about the order of fields with different
numbers, nor about fields that it does not know, so that each record lists only the payloads under
its own numbers, in order. A zero may be left out. Repeated numbers may stand alone or in blocks.
-/

namespace StaticNet.Onnx

open Wire

/-- The payloads under a number, in order. -/
def payloads (number : Nat) (fields : List Field) : List Payload :=
  fields.filterMap fun field => if field.number = number then some field.payload else none

/-! ## Payloads -/

section Payloads

variable {α : Type}

/-- A field that appears at most once, and need not appear for its zero. -/
inductive Once (spells : α → Payload → Prop) (zero : α) : α → List Payload → Prop
  | omitted : Once spells zero zero []
  | written {value : α} {payload : Payload} :
      spells value payload → Once spells zero value [payload]

/-- A field for each element. -/
abbrev Each (spells : α → Payload → Prop) : List α → List Payload → Prop := List.Forall₂ spells

/-- Fields that hold elements one by one, or several in a block. -/
inductive Packed (single : α → Payload) (packed : List α → Bytes → Prop) :
    List α → List Payload → Prop
  | nil : Packed single packed [] []
  | single {value : α} {values : List α} {rest : List Payload} :
      Packed single packed values rest →
      Packed single packed (value :: values) (single value :: rest)
  | block {chunk values : List α} {data : Bytes} {rest : List Payload} :
      packed chunk data → Packed single packed values rest →
      Packed single packed (chunk ++ values) (.bytes data :: rest)

/-- An integer in two's complement. -/
def intPayload (value : Int64) : Payload := .varint value.toUInt64.toNat

def floatPayload (value : Binary32) : Payload := .fixed32 value.bits.toNat

def doublePayload (value : Binary64) : Payload := .fixed64 value.bits.toNat

def SpellsInt (value : Int64) (payload : Payload) : Prop := payload = intPayload value

/-- A short integer is written with its sign in all bits. -/
def SpellsShort (value : Int32) (payload : Payload) : Prop := payload = intPayload value.toInt64

def SpellsFloat (value : Binary32) (payload : Payload) : Prop := payload = floatPayload value

def SpellsBytes (value : Bytes) (payload : Payload) : Prop := payload = .bytes value

def SpellsText (value : String) (payload : Payload) : Prop :=
  ∃ data, payload = .bytes data ∧ value = Text.ofBytes data

/-- Bytes in which fields that stand for a value are spelled. -/
def Serializes (written : α → List Field → Prop) (value : α) (bytes : Bytes) : Prop :=
  ∃ fields, SpellsMessage fields bytes ∧ written value fields

/-- A message inside a field. -/
def SpellsRecord (written : α → List Field → Prop) (value : α) (payload : Payload) : Prop :=
  ∃ data, payload = .bytes data ∧ Serializes written value data

/-- Integers one behind the other. -/
inductive PackedInts : List Int64 → Bytes → Prop
  | nil : PackedInts [] []
  | cons {value : Int64} {values : List Int64} {first rest : Bytes} :
      SpellsVarint value.toUInt64.toNat first → PackedInts values rest →
      PackedInts (value :: values) (first ++ rest)

def floatBytes (value : Binary32) : Bytes := Bytes.ofWord value.bits

def doubleBytes (value : Binary64) : Bytes := Bytes.ofNat 8 value.bits.toNat

def PackedFloats (values : List Binary32) (data : Bytes) : Prop := data = values.flatMap floatBytes

def PackedDoubles (values : List Binary64) (data : Bytes) : Prop :=
  data = values.flatMap doubleBytes

end Payloads

abbrev Ints : List Int64 → List Payload → Prop := Packed intPayload PackedInts

abbrev Floats : List Binary32 → List Payload → Prop := Packed floatPayload PackedFloats

abbrev Doubles : List Binary64 → List Payload → Prop := Packed doublePayload PackedDoubles

/-! ## Messages -/

structure OpsetWritten (opset : OpsetRecord) (fields : List Field) : Prop where
  domain : Once SpellsText "" opset.domain (payloads 1 fields)
  version : Once SpellsInt 0 opset.version (payloads 2 fields)

structure DimensionWritten (dim : DimensionRecord) (fields : List Field) : Prop where
  value : Once SpellsInt 0 dim.value (payloads 1 fields)
  parameter : Once SpellsText "" dim.parameter (payloads 2 fields)

structure ShapeWritten (dims : List DimensionRecord) (fields : List Field) : Prop where
  dims : Each (SpellsRecord DimensionWritten) dims (payloads 1 fields)

/-- The type of a value, which a value holds together with its name. -/
structure ValueType where
  elementCode : Int32 := 0
  shape : Option (List DimensionRecord) := none

def ValueRecord.type (value : ValueRecord) : ValueType where
  elementCode := value.elementCode
  shape := if value.hasShape then some value.dims else none

structure TensorTypeWritten (type : ValueType) (fields : List Field) : Prop where
  elementCode : Once SpellsShort 0 type.elementCode (payloads 1 fields)
  shape : Each (SpellsRecord ShapeWritten) type.shape.toList (payloads 2 fields)

structure TypeWritten (type : ValueType) (fields : List Field) : Prop where
  tensorType : Once (SpellsRecord TensorTypeWritten) {} type (payloads 1 fields)

/-- Only a value with a shape has dimensions. -/
structure ValueWritten (value : ValueRecord) (fields : List Field) : Prop where
  shaped : value.dims ≠ [] → value.hasShape = true
  name : Once SpellsText "" value.name (payloads 1 fields)
  type : Once (SpellsRecord TypeWritten) {} value.type (payloads 2 fields)

structure TensorWritten (tensor : TensorRecord) (fields : List Field) : Prop where
  dims : Ints tensor.dims (payloads 1 fields)
  elementCode : Once SpellsShort 0 tensor.elementCode (payloads 2 fields)
  floats : Floats tensor.floats (payloads 4 fields)
  words32 : Ints (tensor.words32.map Int32.toInt64) (payloads 5 fields)
  words64 : Ints tensor.words64 (payloads 7 fields)
  name : Once SpellsText "" tensor.name (payloads 8 fields)
  raw : Once SpellsBytes [] tensor.raw (payloads 9 fields)
  doubles : Doubles tensor.doubles (payloads 10 fields)

/-- The bytes of a text; there are none if it is left out. -/
def AttributeRecord.bytes (record : AttributeRecord) : Bytes := record.text.getD []

structure AttributeWritten (record : AttributeRecord) (fields : List Field) : Prop where
  name : Once SpellsText "" record.name (payloads 1 fields)
  float : Once SpellsFloat ⟨0⟩ record.float (payloads 2 fields)
  int : Once SpellsInt 0 record.int (payloads 3 fields)
  text : Once SpellsBytes [] record.bytes (payloads 4 fields)
  tensor : Each (SpellsRecord TensorWritten) record.tensor.toList (payloads 5 fields)
  floats : Floats record.floats (payloads 7 fields)
  ints : Ints record.ints (payloads 8 fields)
  texts : Each SpellsBytes record.texts (payloads 9 fields)
  kind : Once SpellsShort 0 record.kind (payloads 20 fields)

structure NodeWritten (node : NodeRecord) (fields : List Field) : Prop where
  inputs : Each SpellsText node.inputs (payloads 1 fields)
  outputs : Each SpellsText node.outputs (payloads 2 fields)
  name : Once SpellsText "" node.name (payloads 3 fields)
  op : Once SpellsText "" node.op (payloads 4 fields)
  attributes : Each (SpellsRecord AttributeWritten) node.attributes (payloads 5 fields)
  domain : Once SpellsText "" node.domain (payloads 7 fields)

structure GraphWritten (graph : GraphRecord) (fields : List Field) : Prop where
  nodes : Each (SpellsRecord NodeWritten) graph.nodes (payloads 1 fields)
  name : Once SpellsText "" graph.name (payloads 2 fields)
  initializers : Each (SpellsRecord TensorWritten) graph.initializers (payloads 5 fields)
  inputs : Each (SpellsRecord ValueWritten) graph.inputs (payloads 11 fields)
  outputs : Each (SpellsRecord ValueWritten) graph.outputs (payloads 12 fields)
  values : Each (SpellsRecord ValueWritten) graph.values (payloads 13 fields)

structure ModelWritten (model : ModelRecord) (fields : List Field) : Prop where
  irVersion : Once SpellsInt 0 model.irVersion (payloads 1 fields)
  producer : Once SpellsText "" model.producer (payloads 2 fields)
  producerVersion : Once SpellsText "" model.producerVersion (payloads 3 fields)
  graph : Each (SpellsRecord GraphWritten) model.graph.toList (payloads 7 fields)
  opsets : Each (SpellsRecord OpsetWritten) model.opsets (payloads 8 fields)

/-! ## Empty texts

A text without bytes is not told from one that is left out.
-/

def AttributeRecord.settled (record : AttributeRecord) : AttributeRecord :=
  { record with text := if record.text = some [] then none else record.text }

def NodeRecord.settled (node : NodeRecord) : NodeRecord :=
  { node with attributes := node.attributes.map AttributeRecord.settled }

def GraphRecord.settled (graph : GraphRecord) : GraphRecord :=
  { graph with nodes := graph.nodes.map NodeRecord.settled }

def ModelRecord.settled (model : ModelRecord) : ModelRecord :=
  { model with graph := model.graph.map GraphRecord.settled }

end StaticNet.Onnx
