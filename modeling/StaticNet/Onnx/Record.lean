import StaticNet.Bytes
import StaticNet.Number.Binary

/-! # Records of a model file

The part of the ONNX schema that the compiler reads. A field that a file leaves out has its zero
value; where leaving it out matters the field is optional.
-/

namespace StaticNet.Onnx

/-- A version of an operator set. -/
structure OpsetRecord where
  domain : String := ""
  version : Int64 := 0
deriving DecidableEq

/-- A dimension, given by its value or by the name of a parameter. -/
structure DimensionRecord where
  value : Int64 := 0
  parameter : String := ""
deriving DecidableEq

/-- A tensor with its element type and its dimensions. -/
structure ValueRecord where
  name : String := ""
  elementCode : Int32 := 0
  dims : List DimensionRecord := []
  hasShape : Bool := false
deriving DecidableEq

/-- A constant tensor. The elements stand in the raw bytes or in one of the lists. -/
structure TensorRecord where
  name : String := ""
  elementCode : Int32 := 0
  dims : List Int64 := []
  raw : Bytes := []
  floats : List Binary32 := []
  words32 : List Int32 := []
  words64 : List Int64 := []
  doubles : List Binary64 := []
deriving DecidableEq

/-- An attribute of a node. The kind says which of the fields holds the value. -/
structure AttributeRecord where
  name : String := ""
  kind : Int32 := 0
  float : Binary32 := ⟨0⟩
  int : Int64 := 0
  text : Option Bytes := none
  tensor : Option TensorRecord := none
  floats : List Binary32 := []
  ints : List Int64 := []
  texts : List Bytes := []
deriving DecidableEq

/-- An operator application. -/
structure NodeRecord where
  name : String := ""
  op : String := ""
  inputs : List String := []
  outputs : List String := []
  attributes : List AttributeRecord := []
  domain : String := ""
deriving DecidableEq

/-- A compute graph. -/
structure GraphRecord where
  name : String := ""
  nodes : List NodeRecord := []
  inputs : List ValueRecord := []
  outputs : List ValueRecord := []
  initializers : List TensorRecord := []
  values : List ValueRecord := []
deriving DecidableEq

/-- A model. -/
structure ModelRecord where
  irVersion : Int64 := 0
  opsets : List OpsetRecord := []
  producer : String := ""
  producerVersion : String := ""
  graph : Option GraphRecord := none
deriving DecidableEq

end StaticNet.Onnx
