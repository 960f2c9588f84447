import StaticNet.Onnx.Record

/-! # Summaries of models

What can be said about a model without converting it.
-/

namespace StaticNet.Onnx

/-- A summary of a model. -/
structure Summary where
  irVersion : Int64
  opset : Int64
  producer : String
  producerVersion : String
  name : String
  inputs : List String
  outputs : List String
  nodeCount : Nat
  weightCount : Nat
deriving DecidableEq

/-- The version of the default operator set; zero when there is none. -/
def mainOpset (opsets : List OpsetRecord) : Int64 :=
  match opsets.find? fun opset => opset.domain = "" || opset.domain = "ai.onnx" with
  | some opset => opset.version
  | none => 0

/-- The inputs of a graph that are not constants. -/
def freeInputs (graph : GraphRecord) : List String :=
  (graph.inputs.map ValueRecord.name).filter fun name =>
    !(graph.initializers.map TensorRecord.name).contains name

namespace Summary

/-- The summary of a model. -/
def ofModel (model : ModelRecord) : Summary :=
  let graph := model.graph.getD {}
  { irVersion := model.irVersion
    opset := mainOpset model.opsets
    producer := model.producer
    producerVersion := model.producerVersion
    name := graph.name
    inputs := freeInputs graph
    outputs := graph.outputs.map ValueRecord.name
    nodeCount := graph.nodes.length
    weightCount := graph.initializers.length }

/-- The metadata that are present. -/
def metadata (summary : Summary) : List (String × String) :=
  [ ("producer_name", summary.producer), ("producer_version", summary.producerVersion),
    ("graph_name", summary.name) ].filter fun entry => entry.2 ≠ ""

end Summary

end StaticNet.Onnx
