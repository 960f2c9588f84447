import StaticNet.Graph.Index
import StaticNet.Journal

/-! # Editing a graph

Removing a node updates the indices in place and goes on to the parents that are left without
children, unless they produce a declared output. The other edits compute the indices anew.
-/

namespace StaticNet

/-- An entry about a node. -/
def Node.entry (node : Node) (level : Level) (message : String) : Entry :=
  ⟨level, message, [("node", node.name), ("op", node.op)]⟩

namespace Graph

/-- Change the live node of an id. -/
def updateNode (graph : Graph) (id : Nat) (change : Node → Node) : Graph :=
  { graph with nodes := graph.nodes.modify id (Option.map change) }

/-- Take a node out of the producer index. -/
def dropProducer (id : Nat) (producers : TensorIndex Nat) (tensor : String) : TensorIndex Nat :=
  if producers.get? tensor = some id then producers.erase tensor else producers

/-- Take a node out of the consumer index. -/
def dropConsumer (id : Nat) (consumers : TensorIndex (List Nat)) (tensor : String) :
    TensorIndex (List Nat) :=
  match consumers.get? tensor with
  | none => consumers
  | some ids =>
      let rest := ids.filter (· ≠ id)
      if rest.isEmpty then consumers.erase tensor else consumers.insert tensor rest

/-- Empty the position of a node and take it out of the indices and of the parent lists of its
children. -/
def detach (graph : Graph) (node : Node) : Graph :=
  let emptied : Graph :=
    { graph with
      nodes := graph.nodes.set node.id none
      producers := node.outputs.foldl (dropProducer node.id) graph.producers
      consumers := node.inputs.foldl (dropConsumer node.id) graph.consumers }
  node.children.foldl
    (fun graph child => graph.updateNode child fun other =>
      { other with parents := other.parents.filter (· ≠ node.id) })
    emptied

/-- Take a node out of the child list of a parent. -/
def dropChild (graph : Graph) (parent child : Nat) : Graph :=
  graph.updateNode parent fun node => { node with children := node.children.filter (· ≠ child) }

/-- Whether a live node has no children and produces no declared output. -/
def isDeadEnd (graph : Graph) (id : Nat) : Bool :=
  match graph.node? id with
  | some node => node.children.isEmpty && !graph.yieldsOutput node
  | none => false

/-- A graph together with the nodes removed from it, in order. -/
structure Removal where
  graph : Graph
  removed : List Node

/-- Remove a node and, parent by parent, what its removal leaves dead. The fuel bounds the depth of
the cascade by the number of live nodes. -/
def removeWithin : Nat → Removal → Nat → Removal
  | 0, state, _ => state
  | fuel + 1, state, id =>
      match state.graph.node? id with
      | none => state
      | some node =>
          node.parents.foldl
            (fun state parent =>
              let graph := state.graph.dropChild parent id
              let state := { state with graph }
              if graph.isDeadEnd parent then removeWithin fuel state parent else state)
            ⟨state.graph.detach node, state.removed ++ [node]⟩

/-- Remove a node and every parent left without children. -/
def remove (graph : Graph) (id : Nat) : Removal := removeWithin graph.size ⟨graph, []⟩ id

/-- Remove one node and nothing else. -/
def unlink (graph : Graph) (id : Nat) : Graph :=
  match graph.node? id with
  | none => graph
  | some _ => { graph with nodes := graph.nodes.set id none }.reindex

/-- A node that reads the replacement wherever it read the old tensor. -/
def redirect (old replacement : String) (value : Option Tensor) (node : Node) : Node :=
  if node.inputs.contains old then
    let inputs := node.inputs.map fun tensor => if tensor = old then replacement else tensor
    let redirected := { node with inputs }
    match value with
    | some value => redirected.attach replacement value
    | none => redirected
  else node

/-- Let every node read a replacement instead of a tensor. A known value of the replacement is
attached to the nodes that now read it. -/
def rewire (graph : Graph) (old replacement : String) : Graph :=
  let change := redirect old replacement (graph.constants.get? replacement)
  { graph with nodes := graph.nodes.map (Option.map change) }.reindex

/-- Rename a declared output, keeping its element type and shape. -/
def renameOutput (graph : Graph) (old replacement : String) : Graph :=
  { graph with
    outputs := graph.outputs.map fun edge =>
      if edge.id = old then { edge with id := replacement } else edge }

/-- Record the value of an input of a node. -/
def pinConstant (graph : Graph) (id : Nat) (tensor : String) (value : Tensor) : Graph :=
  match graph.node? id with
  | none => graph
  | some _ =>
      { graph with constants := graph.constants.insert tensor value }.updateNode id fun node =>
        node.attach tensor value

/-- Set the entry of a tensor in the shape table. -/
def recordShape (graph : Graph) (tensor : String) (shape : Option Shape) : Graph :=
  { graph with shapes := graph.shapes.insert tensor shape }

/-- Remove a node and its dead parents, reporting each of them. -/
def removeLogged (graph : Graph) (id : Nat) : Logged Graph := do
  let removal := graph.remove id
  for node in removal.removed do
    report (node.entry .debug "removed node")
  return removal.graph

/-- Remove one node and report it. -/
def unlinkLogged (graph : Graph) (id : Nat) : Logged Graph := do
  if let some node := graph.node? id then report (node.entry .debug "unlinked node")
  return graph.unlink id

end Graph

end StaticNet
