import StaticNet.Propagation.Fixpoint

/-! # Folding constants

A node all of whose outputs have known values is replaced by those values: they are attached to the
nodes that read them, and the node is removed. A node that produces a declared output is kept.
-/

namespace StaticNet.Graph

/-- Attach a value to every node that reads a tensor. -/
def attachToConsumers (graph : Graph) (tensor : String) (value : Tensor) : Graph :=
  (graph.consumersOf tensor).foldl
    (fun graph consumer => graph.pinConstant consumer.id tensor value) graph

/-- Attach the known values of the outputs of a node to the nodes that read them. -/
def attachOutputs (graph : Graph) (propagation : Propagation) (node : Node) : Graph :=
  node.outputs.foldl
    (fun graph tensor =>
      match (propagation.state tensor).value? with
      | some value => graph.attachToConsumers tensor value
      | none => graph) graph

/-- A reduced graph with the names of the nodes taken out of it, in order. -/
structure Reduction where
  graph : Graph
  removed : List String

/-- Fold one node, if it is live, has known outputs and produces no declared output. -/
def foldNode (propagation : Propagation) (state : Reduction) (id : Nat) : Logged Reduction := do
  match state.graph.node? id with
  | none => return state
  | some node =>
      if !propagation.folds node then return state
      if state.graph.yieldsOutput node then
        report (node.entry .warning "constant node produces a graph output, keeping it")
        return state
      let graph ← (state.graph.attachOutputs propagation node).removeLogged id
      report (node.entry .debug "removed constant node")
      return ⟨graph, state.removed ++ [node.name]⟩

/-- Fold every node with known outputs. -/
def foldConstants (graph : Graph) (propagation : Propagation) : Logged Reduction :=
  (graph.live.map Node.id).foldlM (foldNode propagation) ⟨graph, []⟩

end StaticNet.Graph
