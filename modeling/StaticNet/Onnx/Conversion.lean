import StaticNet.Graph.Basic
import StaticNet.Onnx.Order
import StaticNet.Onnx.Reader
import StaticNet.Text.Quoted

/-! # From model files to graphs

Constant tensors are decoded, attributes get their kinds, and nodes are put in order. A symbolic
batch dimension of an input is taken to be one; any other symbolic dimension leaves the shape
unknown.
-/

namespace StaticNet.Onnx

/-- Why a constant tensor cannot be decoded. -/
inductive TensorDataError where
  | elementType (code : Int32)
  | rawSize (count : Nat) (type : ElementType)
  | valueCount (name : String) (count : Nat) (shape : Shape)
deriving DecidableEq

/-- The wording of a tensor data error. -/
def TensorDataError.message : TensorDataError → String
  | .elementType code => "type " ++ toString code.toInt ++ ": unsupported tensor data type"
  | .rawSize count type =>
      toString count ++ " raw bytes for " ++ type.name ++ ": tensor data does not match dimensions"
  | .valueCount name count shape =>
      Text.quote name ++ ": " ++ toString count ++ " values for shape " ++ shape.text ++
        ": tensor data does not match dimensions"

/-- Why a model is no graph. -/
inductive ConversionError where
  | noGraph
  | initializer (name : String) (cause : TensorDataError)
  | attribute (node op name : String) (cause : TensorDataError)
  | trap
deriving DecidableEq

/-- The wording of a conversion error. -/
def ConversionError.message : ConversionError → String
  | .noGraph => noGraphMessage
  | .initializer name cause => "initializer " ++ Text.quote name ++ ": " ++ cause.message
  | .attribute node op name cause =>
      "node " ++ Text.quote node ++ " (" ++ op ++ "): attribute " ++ name ++ ": " ++ cause.message
  | .trap => "trap"

/-- The number in the raw bytes of one element. -/
def rawNumber (type : ElementType) (block : Bytes) : Binary64 :=
  match type with
  | .float32 => .ofBinary32 (.ofPattern block.toNat)
  | .float64 => .ofPattern block.toNat
  | .int32 => .ofInt ((block.toNat : Int).bmod UInt32.size)
  | .int64 => .ofInt ((block.toNat : Int).bmod UInt64.size)
  | .uint8 | .bool => .ofInt block.toNat

/-- The numbers in raw bytes. -/
def rawNumbers (type : ElementType) (raw : Bytes) : Except TensorDataError (List Binary64) :=
  if raw.length % type.size ≠ 0 then .error (.rawSize raw.length type)
  else .ok ((Bytes.blocks type.size raw).map (rawNumber type))

namespace TensorRecord

/-- The elements of a tensor: the raw bytes, or the first list that is not empty. -/
def numbers (record : TensorRecord) (type : ElementType) :
    Except TensorDataError (List Binary64) :=
  if !record.raw.isEmpty then rawNumbers type record.raw
  else if !record.floats.isEmpty then .ok (record.floats.map Binary64.ofBinary32)
  else if !record.words32.isEmpty then .ok (record.words32.map fun n => .ofInt n.toInt)
  else if !record.words64.isEmpty then .ok (record.words64.map fun n => .ofInt n.toInt)
  else .ok record.doubles

/-- The tensor of a record. -/
def tensor (record : TensorRecord) : Except TensorDataError Tensor :=
  match ElementType.ofCode? record.elementCode.toInt with
  | none => .error (.elementType record.elementCode)
  | some type => do
      let data ← record.numbers type
      (Tensor.ofData (some record.dims) type data).mapError fun _ =>
        .valueCount record.name data.length record.dims

end TensorRecord

namespace ValueRecord

/-- The dimensions of a value from a position on, if all of them are known. -/
def dimsFrom? (isInput : Bool) : Nat → List DimensionRecord → Option Shape
  | _, [] => some []
  | position, dim :: rest => do
      let size ← if 0 < dim.value then some dim.value
        else if isInput && position = 0 then some 1
        else none
      let sizes ← dimsFrom? isInput (position + 1) rest
      return size :: sizes

/-- The edge of a value. -/
def edge (record : ValueRecord) (isInput : Bool) : Edge :=
  { id := record.name
    elementCode := record.elementCode.toInt
    shape := if record.hasShape then dimsFrom? isInput 0 record.dims else none }

end ValueRecord

namespace AttributeRecord

/-- The kinds of attributes. -/
inductive Kind where
  | float
  | int
  | text
  | tensor
  | floats
  | ints
  | texts
deriving DecidableEq

/-- The kind of a code. -/
def kindOfCode? (code : Int32) : Option Kind :=
  if code = 1 then some .float
  else if code = 2 then some .int
  else if code = 3 then some .text
  else if code = 4 then some .tensor
  else if code = 6 then some .floats
  else if code = 7 then some .ints
  else if code = 8 then some .texts
  else none

/-- The kind that the fields of an attribute imply. -/
def impliedKind (record : AttributeRecord) : Kind :=
  if record.tensor.isSome then .tensor
  else if !record.ints.isEmpty then .ints
  else if !record.floats.isEmpty then .floats
  else if !record.texts.isEmpty then .texts
  else if record.text.isSome then .text
  else if !record.float.isZero then .float
  else .int

/-- The kind of an attribute: the given one, or else the one that the fields imply. -/
def kind? (record : AttributeRecord) : Option Kind :=
  if record.kind = 0 then some record.impliedKind else kindOfCode? record.kind

/-- The attribute of a record. A record of an unknown kind has none. -/
def attribute? (node : NodeRecord) (record : AttributeRecord) :
    Except ConversionError (Option Attribute) :=
  match record.kind? with
  | none => .ok none
  | some .float => .ok (some (.float record.float))
  | some .int => .ok (some (.int record.int))
  | some .text => .ok (some (.text (Text.ofBytes (record.text.getD []))))
  | some .tensor =>
      match record.tensor with
      | none => .error .trap
      | some tensor =>
          match tensor.tensor with
          | .ok value => .ok (some (.tensor (some value)))
          | .error cause => .error (.attribute node.name node.op record.name cause)
  | some .floats => .ok (some (.floats record.floats))
  | some .ints => .ok (some (.ints record.ints))
  | some .texts => .ok (some (.texts (record.texts.map Text.ofBytes)))

end AttributeRecord

/-- The attributes of a node; a later one of the same name wins. -/
def nodeAttributes (node : NodeRecord) : Except ConversionError Attributes := do
  let entries ← node.attributes.mapM fun record => do
    return (← record.attribute? node).map fun value => (record.name, value)
  return Dict.ofList (entries.filterMap id)

/-- The description of a node. -/
def nodeSpec (node : NodeRecord) : Except ConversionError NodeSpec := do
  return ⟨node.name, node.op, node.inputs, node.outputs, ← nodeAttributes node⟩

/-- The constant tensors of a graph by name; a later one of the same name wins. -/
def initializers (graph : GraphRecord) : Except ConversionError (Dict Tensor) := do
  let entries ← graph.initializers.mapM fun record =>
    match record.tensor with
    | .ok value => .ok (record.name, value)
    | .error cause => .error (.initializer record.name cause)
  return Dict.ofList entries

/-- The description of the graph of a model. -/
def graphSpec (model : ModelRecord) : Except ConversionError GraphSpec :=
  match model.graph with
  | none => .error .noGraph
  | some graph => do
      let constants ← initializers graph
      let nodes ← (inDependencyOrder graph.nodes).mapM nodeSpec
      let inputs := graph.inputs.filter fun value => !constants.contains value.name
      return { name := graph.name
               nodes
               inputs := inputs.map (·.edge true)
               outputs := graph.outputs.map (·.edge false)
               initializers := constants
               values := graph.values.map (·.edge false) }

end StaticNet.Onnx
