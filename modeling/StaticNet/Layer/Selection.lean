import StaticNet.Layer.Elementwise
import StaticNet.Layer.Movement
import StaticNet.Layer.Window

/-! # Selecting layers

Every operator has a list of variants. The first variant that applies to a node builds its layer.
-/

namespace StaticNet

/-- One way to build the layer of a node. It has no result for a node that it does not apply to. -/
structure Variant where
  name : String
  build : Graph → Node → Building (Option Layer)

/-- Why a node has no layer. -/
inductive SelectionError where
  | refused (variant node op : String) (cause : Refusal)
  | noImplementation (node op : String)
deriving DecidableEq

/-- The wording of a selection error. -/
def SelectionError.message : SelectionError → String
  | .refused variant node op cause =>
      "variant " ++ variant ++ ": " ++ node ++ " (" ++ op ++ "): " ++ cause.message ++
        ": unsupported construct"
  | .noImplementation node op =>
      "node " ++ Text.quote node ++ " (" ++ op ++ "): no implementation"

namespace Variant

/-- The variants of every operator, those to be tried first in front. -/
def table : List (String × List Variant) :=
  [ ("Conv", [⟨"Conv2D", Building.convolution2D⟩, ⟨"Conv1D", Building.convolution1D⟩]),
    ("Gemm", [⟨"FullyConnected", Building.fullyConnected⟩]),
    ("MaxPool", [⟨"MaxPool2D", Building.maxPool .two⟩, ⟨"MaxPool1D", Building.maxPool .one⟩]),
    ("AveragePool",
      [ ⟨"AveragePool2D", Building.averagePool .two⟩,
        ⟨"AveragePool1D", Building.averagePool .one⟩ ]),
    ("GlobalAveragePool", [⟨"GlobalAveragePool", Building.globalPool .globalAveragePool⟩]),
    ("GlobalMaxPool", [⟨"GlobalMaxPool", Building.globalPool .globalMaxPool⟩]),
    ("Relu", [⟨"ReLU", Building.activation .relu⟩]),
    ("Sigmoid", [⟨"Sigmoid", Building.activation .sigmoid⟩]),
    ("Tanh", [⟨"TanH", Building.activation .tanh⟩]),
    ("Softmax", [⟨"Softmax", Building.activation .softmax⟩]),
    ("Clip", [⟨"Clip", Building.clip⟩]),
    ("LRN", [⟨"LRN", Building.responseNormalization⟩]),
    ("BatchNormalization", [⟨"BatchNormalization", Building.batchNormalization⟩]),
    ("Concat", [⟨"Concat", Building.concat⟩]),
    ("Reshape", [⟨"Reshape", Building.copy⟩]),
    ("Flatten", [⟨"Flatten", Building.copy⟩]),
    ("Add", [⟨"Add", Building.add⟩]),
    ("Pad", [⟨"Pad", Building.pad⟩]) ]

/-- The variants of an operator. -/
def ofOperator (op : String) : List Variant := (table.lookup op).getD []

/-- The operators that have variants, in name order. -/
def operators : List String := (table.map Prod.fst).mergeSort fun a b => decide (a ≤ b)

/-- The entry that reports on a variant of a node. -/
def entry (variant : Variant) (node : Node) (message : String) : Entry :=
  ⟨.debug, message, [("node", node.name), ("op", node.op), ("variant", variant.name)]⟩

end Variant

namespace Layer

/-- The layer that the first applicable variant builds. -/
def selectAmong (graph : Graph) (node : Node) :
    List Variant → ExceptT SelectionError Allocating Layer
  | [] => throw (.noImplementation node.name node.op)
  | variant :: rest => do
      let built ← ExceptT.adapt (SelectionError.refused variant.name node.name node.op)
        (variant.build graph node)
      match built with
      | some layer =>
          report (variant.entry node "selected implementation")
          return layer
      | none =>
          report (variant.entry node "variant does not apply")
          selectAmong graph node rest

/-- The layer of a node. -/
def select (graph : Graph) (node : Node) : ExceptT SelectionError Allocating Layer :=
  selectAmong graph node (Variant.ofOperator node.op)

end Layer

end StaticNet
