import StaticNet.Graph.Basic
import StaticNet.Text.Utf8

/-! # The layout of a weights file

A weights file lists, layer by layer, the constant inputs of the nodes that hold weights. It does
not describe itself: the layout says which layers and tensors to expect, and of which rank.
-/

namespace StaticNet

/-- The operators whose constant inputs configure them instead of holding weights. -/
def configuredOperators : List String := ["Reshape", "Mul", "Clip", "Pad"]

/-- Whether a node is a layer of the weights file. -/
def Node.holdsWeights (node : Node) : Bool :=
  !node.constants.entries.isEmpty && !configuredOperators.contains node.op

/-- The number of dimension fields of a tensor, by its rank. -/
def dimensionCount? (rank : Int) : Option Nat :=
  if rank = 1 then some 1
  else if rank = 2 then some 3
  else if rank = 3 ∨ rank = 4 then some 4
  else none

/-- One layer of a weights file: its tensors with their ranks, and whether a count of zero biases
follows them. -/
structure LayerLayout where
  name : String
  op : String
  tensors : List String
  ranks : List Int
  zeroBias : Bool
deriving DecidableEq

/-- The layers of a weights file. -/
structure WeightsLayout where
  model : String
  layers : List LayerLayout
deriving DecidableEq

/-- A constant input whose rank the weights file cannot hold. -/
structure WeightsRankError where
  layer : String
  tensor : String
  rank : Nat
deriving DecidableEq

namespace WeightsRankError

/-- The reason that all rank errors share. -/
def reason (rank : Int) : String := "rank " ++ toString rank ++ ": unsupported tensor rank"

/-- The wording when a layout is computed. -/
def layoutMessage (cause : WeightsRankError) : String :=
  "layer " ++ cause.layer ++ " input " ++ cause.tensor ++ ": " ++ reason cause.rank

/-- The wording when a file is written. -/
def encodingMessage (cause : WeightsRankError) : String :=
  "layer " ++ cause.layer ++ ": input " ++ cause.tensor ++ ": " ++ reason cause.rank

end WeightsRankError

/-- Whether a layer is followed by a count of zero biases: it has a single tensor and is no
addition. -/
def Node.lacksBias (node : Node) : Bool := node.constants.size = 1 && node.op ≠ "Add"

namespace WeightsLayout

/-- The rank of a constant input, if the file can hold it. -/
def checkedRank (layer : String) (input : String × Tensor) : Except WeightsRankError Int :=
  match dimensionCount? input.2.rank with
  | some _ => .ok input.2.rank
  | none => .error ⟨layer, input.1, input.2.rank⟩

/-- The layout of one layer. -/
def ofNode (node : Node) : Except WeightsRankError LayerLayout := do
  let ranks ← node.constants.entries.mapM (checkedRank node.name)
  return ⟨node.name, node.op, node.constants.keys, ranks, node.lacksBias⟩

/-- The layout of the weights file of nodes. -/
def ofNodes (model : String) (nodes : List Node) : Except WeightsRankError WeightsLayout := do
  let layers ← (nodes.filter Node.holdsWeights).mapM ofNode
  return ⟨model, layers⟩

end WeightsLayout

end StaticNet
