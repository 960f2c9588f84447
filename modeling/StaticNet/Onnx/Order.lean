import StaticNet.Dict
import StaticNet.Onnx.Record

/-! # Ordering nodes

The nodes of a file are listed such that, where that is possible, every node comes after the
producers of its inputs. Nodes that are in order already stay in place.
-/

namespace StaticNet.Onnx

/-- The position of the last node that lists a tensor among its outputs. -/
def producerTable (nodes : List NodeRecord) : Dict Nat :=
  Dict.ofList (nodes.zipIdx.flatMap fun entry =>
    entry.1.outputs.map fun tensor => (tensor, entry.2))

/-- The positions that were visited, and those that were finished, last first. -/
structure Visit where
  visited : List Nat
  finished : List Nat

/-- Visit a node: first the producers of its inputs, then the node itself. The fuel bounds the depth
by the number of nodes. -/
def visitNode (producers : Dict Nat) (nodes : List NodeRecord) : Nat → Visit → Nat → Visit
  | 0, state, _ => state
  | fuel + 1, state, position =>
      if state.visited.contains position then state
      else
        let entered := { state with visited := position :: state.visited }
        let inputs := ((nodes[position]?).map NodeRecord.inputs).getD []
        let sources := inputs.filterMap producers.get?
        let visited := sources.foldl (visitNode producers nodes fuel) entered
        { visited with finished := position :: visited.finished }

/-- The positions of nodes in visiting order. -/
def visitOrder (nodes : List NodeRecord) : List Nat :=
  let producers := producerTable nodes
  let state := (List.range nodes.length).foldl
    (visitNode producers nodes (nodes.length + 1)) ⟨[], []⟩
  state.finished.reverse

/-- The nodes with producers in front of consumers. -/
def inDependencyOrder (nodes : List NodeRecord) : List NodeRecord :=
  (visitOrder nodes).filterMap fun position => nodes[position]?

end StaticNet.Onnx
