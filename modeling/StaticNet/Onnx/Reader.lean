import StaticNet.Onnx.Record
import StaticNet.Text.Utf8
import StaticNet.Wire.Field

/-! # Reading model files

Every message is read field by field. A field with an unknown number is skipped; a field with a
known number must have the expected wire type. A field that may appear once keeps its last value.
-/

namespace StaticNet.Onnx

open Wire (Field Payload WireError)

/-- Why a message cannot be read. -/
inductive ReadCause where
  | tag (cause : WireError)
  | payload (number : Nat) (cause : WireError)
  | notBytes (wireType : Nat)
  | notVarint (wireType : Nat)
  | packedVarint (cause : WireError)
  | packedFloats (count : Nat)
  | packedDoubles (count : Nat)
deriving DecidableEq

/-- The wording of a read cause. -/
def ReadCause.message (cause : ReadCause) : String :=
  let detail := match cause with
    | .tag cause => cause.message
    | .payload number cause => "field " ++ toString number ++ ": " ++ cause.message
    | .notBytes wireType => "wire type " ++ toString wireType ++ ", expected bytes"
    | .notVarint wireType => "wire type " ++ toString wireType ++ ", expected varint"
    | .packedVarint cause => cause.message
    | .packedFloats count => "packed floats of " ++ toString count ++ " bytes"
    | .packedDoubles count => "packed doubles of " ++ toString count ++ " bytes"
  "malformed protobuf: " ++ detail

/-- What is wrong in a message, and the numbers of the fields that lead there. -/
structure ReadError where
  path : List Nat
  cause : ReadCause
deriving DecidableEq

/-- The wording of a read error. -/
def ReadError.message (failure : ReadError) : String :=
  String.join (failure.path.map fun number => "field " ++ toString number ++ ": ") ++
    failure.cause.message

/-- The result of reading. -/
abbrev Read := Except ReadError

/-- A failure at the current field. -/
def Read.fail {α : Type} (cause : ReadCause) : Read α := .error ⟨[], cause⟩

/-- Read the fields of a message in order, each changing what was read before. -/
def readMessage {σ : Type} (handle : σ → Field → Read σ) (start : σ) (bytes : Bytes) : Read σ := do
  let (fields, fault) := Wire.scan bytes
  let result ← fields.foldlM
    (fun state field => (handle state field).mapError fun failure =>
      { failure with path := field.number :: failure.path }) start
  match fault with
  | none => return result
  | some (.tag cause) => Read.fail (.tag cause)
  | some (.payload number cause) => Read.fail (.payload number cause)

/-- The bytes of a field. -/
def bytesOf (field : Field) : Read Bytes :=
  match field.payload with
  | .bytes data => .ok data
  | payload => Read.fail (.notBytes payload.wireType)

/-- The text of a field. -/
def textOf (field : Field) : Read String := do return Text.ofBytes (← bytesOf field)

/-- The integer of a field. -/
def intOf (field : Field) : Read Int64 :=
  match field.payload with
  | .varint n => .ok (Wire.signed n)
  | payload => Read.fail (.notVarint payload.wireType)

/-- The short integer of a field; higher bits are dropped. -/
def shortOf (field : Field) : Read Int32 := do return (← intOf field).toInt32

/-- The integers that fill bytes. -/
def packedInts (bytes : Bytes) : Read (List Int64) :=
  if bytes.isEmpty then .ok []
  else
    match _ : Wire.takeVarint bytes with
    | .error cause => Read.fail (.packedVarint cause)
    | .ok (n, rest) => do return Wire.signed n :: (← packedInts rest)
termination_by bytes.length
decreasing_by exact Wire.takeVarint_shortens (by assumption)

/-- The integers of a field, one by one or packed. -/
def intsOf (field : Field) : Read (List Int64) :=
  match field.payload with
  | .varint n => .ok [Wire.signed n]
  | .bytes data => packedInts data
  | payload => Read.fail (.notBytes payload.wireType)

/-- The single precision numbers of a field, one by one or packed. -/
def floatsOf (field : Field) : Read (List Binary32) :=
  match field.payload with
  | .fixed32 n => .ok [.ofPattern n]
  | .bytes data =>
      if data.length % 4 ≠ 0 then Read.fail (.packedFloats data.length)
      else .ok ((Bytes.blocks 4 data).map fun block => .ofPattern block.toNat)
  | payload => Read.fail (.notBytes payload.wireType)

/-- The double precision numbers of a field, one by one or packed. -/
def doublesOf (field : Field) : Read (List Binary64) :=
  match field.payload with
  | .fixed64 n => .ok [.ofPattern n]
  | .bytes data =>
      if data.length % 8 ≠ 0 then Read.fail (.packedDoubles data.length)
      else .ok ((Bytes.blocks 8 data).map fun block => .ofPattern block.toNat)
  | payload => Read.fail (.notBytes payload.wireType)

/-- Read the fields of a message inside a field. -/
def messageOf {σ : Type} (handle : σ → Field → Read σ) (start : σ) (field : Field) : Read σ := do
  readMessage handle start (← bytesOf field)

/-- A field of an operator set version. -/
def opsetField (opset : OpsetRecord) (field : Field) : Read OpsetRecord :=
  match field.number with
  | 1 => do return { opset with domain := ← textOf field }
  | 2 => do return { opset with version := ← intOf field }
  | _ => return opset

/-- A field of a dimension. -/
def dimensionField (dim : DimensionRecord) (field : Field) : Read DimensionRecord :=
  match field.number with
  | 1 => do return { dim with value := ← intOf field }
  | 2 => do return { dim with parameter := ← textOf field }
  | _ => return dim

/-- A field of a shape. -/
def shapeField (value : ValueRecord) (field : Field) : Read ValueRecord :=
  match field.number with
  | 1 => do return { value with dims := value.dims ++ [← messageOf dimensionField {} field] }
  | _ => return value

/-- A field of a tensor type. -/
def tensorTypeField (value : ValueRecord) (field : Field) : Read ValueRecord :=
  match field.number with
  | 1 => do return { value with elementCode := ← shortOf field }
  | 2 => messageOf shapeField { value with hasShape := true } field
  | _ => return value

/-- A field of a type. -/
def typeField (value : ValueRecord) (field : Field) : Read ValueRecord :=
  match field.number with
  | 1 => messageOf tensorTypeField value field
  | _ => return value

/-- A field of a value. -/
def valueField (value : ValueRecord) (field : Field) : Read ValueRecord :=
  match field.number with
  | 1 => do return { value with name := ← textOf field }
  | 2 => messageOf typeField value field
  | _ => return value

/-- A field of a tensor. -/
def tensorField (tensor : TensorRecord) (field : Field) : Read TensorRecord :=
  match field.number with
  | 1 => do return { tensor with dims := tensor.dims ++ (← intsOf field) }
  | 2 => do return { tensor with elementCode := ← shortOf field }
  | 4 => do return { tensor with floats := tensor.floats ++ (← floatsOf field) }
  | 5 => do return { tensor with words32 := tensor.words32 ++ (← intsOf field).map Int64.toInt32 }
  | 7 => do return { tensor with words64 := tensor.words64 ++ (← intsOf field) }
  | 8 => do return { tensor with name := ← textOf field }
  | 9 => do return { tensor with raw := ← bytesOf field }
  | 10 => do return { tensor with doubles := tensor.doubles ++ (← doublesOf field) }
  | _ => return tensor

/-- The number that a field gives to an attribute; a field with several numbers gives none. -/
def onlyFloat (previous : Binary32) (floats : List Binary32) : Binary32 :=
  match floats with
  | [value] => value
  | _ => previous

/-- A field of an attribute. -/
def attributeField (record : AttributeRecord) (field : Field) : Read AttributeRecord :=
  match field.number with
  | 1 => do return { record with name := ← textOf field }
  | 2 => do return { record with float := onlyFloat record.float (← floatsOf field) }
  | 3 => do return { record with int := ← intOf field }
  | 4 => do return { record with text := some (← bytesOf field) }
  | 5 => do return { record with tensor := some (← messageOf tensorField {} field) }
  | 7 => do return { record with floats := record.floats ++ (← floatsOf field) }
  | 8 => do return { record with ints := record.ints ++ (← intsOf field) }
  | 9 => do return { record with texts := record.texts ++ [← bytesOf field] }
  | 20 => do return { record with kind := ← shortOf field }
  | _ => return record

/-- A field of a node. -/
def nodeField (node : NodeRecord) (field : Field) : Read NodeRecord :=
  match field.number with
  | 1 => do return { node with inputs := node.inputs ++ [← textOf field] }
  | 2 => do return { node with outputs := node.outputs ++ [← textOf field] }
  | 3 => do return { node with name := ← textOf field }
  | 4 => do return { node with op := ← textOf field }
  | 5 => do
      return { node with attributes := node.attributes ++ [← messageOf attributeField {} field] }
  | 7 => do return { node with domain := ← textOf field }
  | _ => return node

/-- A field of a graph. -/
def graphField (graph : GraphRecord) (field : Field) : Read GraphRecord :=
  match field.number with
  | 1 => do return { graph with nodes := graph.nodes ++ [← messageOf nodeField {} field] }
  | 2 => do return { graph with name := ← textOf field }
  | 5 => do
      return { graph with initializers := graph.initializers ++ [← messageOf tensorField {} field] }
  | 11 => do return { graph with inputs := graph.inputs ++ [← messageOf valueField {} field] }
  | 12 => do return { graph with outputs := graph.outputs ++ [← messageOf valueField {} field] }
  | 13 => do return { graph with values := graph.values ++ [← messageOf valueField {} field] }
  | _ => return graph

/-- A field of a model. -/
def modelField (model : ModelRecord) (field : Field) : Read ModelRecord :=
  match field.number with
  | 1 => do return { model with irVersion := ← intOf field }
  | 2 => do return { model with producer := ← textOf field }
  | 3 => do return { model with producerVersion := ← textOf field }
  | 7 => do return { model with graph := some (← messageOf graphField {} field) }
  | 8 => do return { model with opsets := model.opsets ++ [← messageOf opsetField {} field] }
  | _ => return model

/-- Why a file holds no model. -/
inductive ParseError where
  | malformed (failure : ReadError)
  | noGraph
deriving DecidableEq

/-- The wording for a model without a graph. -/
def noGraphMessage : String := "model has no graph"

/-- The wording of a parse error. -/
def ParseError.message : ParseError → String
  | .malformed failure => "failed to parse model: " ++ failure.message
  | .noGraph => noGraphMessage

/-- Read a model, which must have a graph. -/
def parse (bytes : Bytes) : Except ParseError ModelRecord := do
  let model ← (readMessage modelField {} bytes).mapError .malformed
  if model.graph.isNone then throw .noGraph
  return model

end StaticNet.Onnx
