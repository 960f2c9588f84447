import StaticNet.Graph.Basic

/-! # The index of a graph

`Graph.reindex` computes every index from the inputs and outputs of the live nodes: the producer
of each tensor, the consumers of each tensor, and the parents and children of each node. An absent
tensor is never indexed.
-/

namespace StaticNet

/-- The tensors that a node reads, absent ones left out. -/
def Node.reads (node : Node) : List String := node.inputs.filter fun tensor => tensor ≠ ""

/-- The tensors that a node writes, absent ones left out. -/
def Node.writes (node : Node) : List String := node.outputs.filter fun tensor => tensor ≠ ""

namespace Graph

/-- The producer of every tensor that one of the nodes writes. -/
def producerIndex (nodes : List Node) : TensorIndex Nat :=
  nodes.foldl (fun index node =>
    node.writes.foldl (fun index tensor => index.insert tensor node.id) index) ∅

/-- Put an id in front of others, unless it stands there already. -/
def addFirst (id : Nat) (ids : List Nat) : List Nat :=
  if ids.head? = some id then ids else id :: ids

/-- The consumers of every tensor that one of the nodes reads, in declaration order. -/
def consumerIndex (nodes : List Node) : TensorIndex (List Nat) :=
  nodes.foldr (fun node index =>
    node.reads.foldl (fun index tensor =>
      index.insert tensor (addFirst node.id (index.getD tensor []))) index) ∅

/-- The producers of the tensors that a node reads. -/
def parentIds (producers : TensorIndex Nat) (node : Node) : List Nat :=
  (node.reads.filterMap producers.get?).eraseDups

/-- The nodes that read a tensor which a node produces, by the id of that node and in declaration
order. -/
def childIndex (producers : TensorIndex Nat) (nodes : List Node) : Std.TreeMap Nat (List Nat) :=
  nodes.foldr (fun node index =>
    (parentIds producers node).foldl (fun index parent =>
      index.insert parent (addFirst node.id (index.getD parent []))) index) ∅

/-- The graph with every index computed anew. -/
def reindex (graph : Graph) : Graph :=
  let live := graph.live
  let producers := producerIndex live
  let children := childIndex producers live
  { graph with
    producers
    consumers := consumerIndex live
    nodes := graph.nodes.map fun slot => slot.map fun node =>
      { node with
        parents := parentIds producers node
        children := children.getD node.id [] } }

end Graph

end StaticNet
