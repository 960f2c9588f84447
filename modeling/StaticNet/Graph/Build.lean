import StaticNet.Graph.Index
import StaticNet.Text.Quoted

/-! # Building a graph

A graph is built from a description. Every node needs an operator, and no tensor has two
producers. An initializer that a node reads is attached to the node, and a declared input that is
also an initializer is not an input of the graph.
-/

namespace StaticNet

/-- Why a description is not a graph. -/
inductive GraphError where
  | noOperator (index : Nat) (name : String)
  | producedTwice (tensor first second : String)
deriving DecidableEq

/-- The wording of a graph error. -/
def GraphError.message : GraphError → String
  | .noOperator index name =>
      "node " ++ toString index ++ " (" ++ Text.quote name ++ "): node has no op type"
  | .producedTwice tensor first second =>
      "tensor " ++ Text.quote tensor ++ " (nodes " ++ Text.quote first ++ " and " ++
        Text.quote second ++ "): tensor produced by more than one node"

namespace Graph

/-- The name of a node; an unnamed node is named after its operator and outputs. -/
def nodeName (spec : NodeSpec) : String :=
  if spec.name = "" then spec.op ++ "_" ++ "_".intercalate spec.outputs else spec.name

/-- Record the producer of each tensor that a node writes. -/
def claimOutputs (name : String) :
    Dict String → List String → Except GraphError (Dict String)
  | owners, [] => .ok owners
  | owners, tensor :: rest =>
      if tensor = "" then claimOutputs name owners rest
      else
        match owners.get? tensor with
        | some first => .error (.producedTwice tensor first name)
        | none => claimOutputs name (owners.insert tensor name) rest

/-- The values of the inputs that are initializers, in input order. -/
def attachedConstants (constants : Dict Tensor) (inputs : List String) : Dict Tensor :=
  inputs.foldl (fun attached tensor =>
    match constants.get? tensor with
    | some value => attached.insert tensor value
    | none => attached) .empty

/-- The node of a description, before it is indexed. -/
def buildNode (constants : Dict Tensor) (id : Nat) (spec : NodeSpec) : Node :=
  { id
    name := nodeName spec
    op := spec.op
    attributes := spec.attributes
    inputs := spec.inputs
    outputs := spec.outputs
    constants := attachedConstants constants spec.inputs
    parents := []
    children := [] }

/-- The nodes of a description, checked in order. -/
def buildNodes (constants : Dict Tensor) :
    Nat → Dict String → List NodeSpec → Except GraphError (List Node)
  | _, _, [] => .ok []
  | id, owners, spec :: rest => do
      if spec.op = "" then throw (.noOperator id spec.name)
      let owners ← claimOutputs (nodeName spec) owners spec.outputs
      let nodes ← buildNodes constants (id + 1) owners rest
      return buildNode constants id spec :: nodes

/-- The shape table of declared values. -/
def initialShapes (values : List Edge) : Dict (Option Shape) :=
  Dict.ofList (values.filterMap fun edge => edge.shape.map fun shape => (edge.id, some shape))

/-- The graph of a description. -/
def build (spec : GraphSpec) : Except GraphError Graph := do
  let nodes ← buildNodes spec.initializers 0 .empty spec.nodes
  let graph : Graph :=
    { name := spec.name
      inputs := spec.inputs.filter fun edge => !spec.initializers.contains edge.id
      outputs := spec.outputs
      nodes := nodes.map some
      constants := spec.initializers
      shapes := initialShapes spec.values
      producers := ∅
      consumers := ∅ }
  return graph.reindex

end Graph

end StaticNet
