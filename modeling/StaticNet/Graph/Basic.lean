import StaticNet.Attribute
import Std.Data.TreeMap

/-! # Compute graphs

Nodes apply operators to named tensors. A graph keeps its nodes in declaration order; a removed
node leaves its position empty, so that node ids stay valid. The producer and consumer indices and
the parent and child lists of the nodes are stored beside the nodes; the indices are search trees,
because every edit asks for them.
-/

namespace StaticNet

/-- A declared tensor with its element type code and its shape, if known. -/
structure Edge where
  id : String
  elementCode : Int
  shape : Option Shape
deriving DecidableEq

/-- A node as a model describes it. -/
structure NodeSpec where
  name : String
  op : String
  inputs : List String
  outputs : List String
  attributes : Attributes

/-- A graph as a model describes it. -/
structure GraphSpec where
  name : String
  nodes : List NodeSpec
  inputs : List Edge
  outputs : List Edge
  initializers : Dict Tensor
  values : List Edge

/-- An operator application. An empty input or output name is an absent tensor. The constants are
the inputs whose value is known, in the order in which they were attached. -/
structure Node where
  id : Nat
  name : String
  op : String
  attributes : Attributes
  inputs : List String
  outputs : List String
  constants : Dict Tensor
  parents : List Nat
  children : List Nat
deriving DecidableEq

/-- What is known by the name of a tensor. -/
abbrev TensorIndex (α : Type) := Std.TreeMap String α

/-- A compute graph. -/
structure Graph where
  name : String
  inputs : List Edge
  outputs : List Edge
  nodes : List (Option Node)
  constants : Dict Tensor
  shapes : Dict (Option Shape)
  producers : TensorIndex Nat
  consumers : TensorIndex (List Nat)

namespace Node

/-- The input at a position, empty when there is none. -/
def input (node : Node) (index : Nat) : String := node.inputs.getD index ""

/-- The output at a position, empty when there is none. -/
def output (node : Node) (index : Nat) : String := node.outputs.getD index ""

/-- Whether an input has a known value. -/
def hasConstant (node : Node) (tensor : String) : Bool := node.constants.contains tensor

/-- The inputs with known values, in the order in which they were attached. -/
def constantNames (node : Node) : List String := node.constants.keys

/-- The inputs that are present and have no known value. -/
def variableInputs (node : Node) : List String :=
  node.inputs.filter fun tensor => tensor ≠ "" && !node.hasConstant tensor

/-- Record the value of an input. -/
def attach (node : Node) (tensor : String) (value : Tensor) : Node :=
  { node with constants := node.constants.insert tensor value }

end Node

namespace Graph

/-- The live nodes in declaration order. -/
def live (graph : Graph) : List Node := graph.nodes.filterMap id

/-- The number of live nodes. -/
def size (graph : Graph) : Nat := graph.live.length

/-- The live node of an id. -/
def node? (graph : Graph) (id : Nat) : Option Node := (graph.nodes[id]?).join

/-- The live nodes of a list of ids. -/
def resolve (graph : Graph) (ids : List Nat) : List Node := ids.filterMap graph.node?

/-- The live producers of the inputs of a node. -/
def parents (graph : Graph) (id : Nat) : List Node :=
  match graph.node? id with
  | some node => graph.resolve node.parents
  | none => []

/-- The live consumers of the outputs of a node. -/
def children (graph : Graph) (id : Nat) : List Node :=
  match graph.node? id with
  | some node => graph.resolve node.children
  | none => []

/-- The live node that produces a tensor. -/
def producer? (graph : Graph) (tensor : String) : Option Node :=
  (graph.producers.get? tensor).bind graph.node?

/-- The live nodes that read a tensor, in declaration order. -/
def consumersOf (graph : Graph) (tensor : String) : List Node :=
  graph.resolve ((graph.consumers.get? tensor).getD [])

/-- The edge of a tensor among declared edges. -/
def edgeNamed? (edges : List Edge) (tensor : String) : Option Edge :=
  edges.find? fun edge => edge.id = tensor

/-- Whether a tensor is a declared input. -/
def isInput (graph : Graph) (tensor : String) : Bool := (edgeNamed? graph.inputs tensor).isSome

/-- Whether a tensor is a declared output. -/
def isOutput (graph : Graph) (tensor : String) : Bool := (edgeNamed? graph.outputs tensor).isSome

/-- Whether a tensor has a known value. -/
def isConstant (graph : Graph) (tensor : String) : Bool := graph.constants.contains tensor

/-- The shape with which a tensor was declared as an input or an output. -/
def statedShape? (graph : Graph) (tensor : String) : Option Shape :=
  ((edgeNamed? graph.inputs tensor).bind Edge.shape).or
    ((edgeNamed? graph.outputs tensor).bind Edge.shape)

/-- The entry of a tensor in the shape table, which may hold an unknown shape. -/
def recordedShape? (graph : Graph) (tensor : String) : Option (Option Shape) :=
  graph.shapes.get? tensor

/-- The best known shape of a tensor: its declared shape, the shape of its value, or its entry in
the shape table. -/
def knownShape? (graph : Graph) (tensor : String) : Option Shape :=
  match graph.statedShape? tensor with
  | some shape => some shape
  | none =>
      match graph.constants.get? tensor with
      | some value => value.shape
      | none => (graph.recordedShape? tensor).join

/-- Whether a node produces a declared output. -/
def yieldsOutput (graph : Graph) (node : Node) : Bool := node.outputs.any graph.isOutput

end Graph

end StaticNet
