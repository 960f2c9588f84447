import StaticNet.Simplification.Fold

/-! # Bypassing nodes that change nothing

A node that only passes its first input on is taken out of the graph: the nodes that read its
output read its input instead, and a declared output that it produced is renamed. `Graph.simplify`
folds constants first and then bypasses such nodes.
-/

namespace StaticNet

/-- Why a graph cannot be simplified. -/
inductive SimplifyError where
  | incompleteNop (node op : String)
deriving DecidableEq

/-- The wording of a simplification error. -/
def SimplifyError.message : SimplifyError → String
  | .incompleteNop node op =>
      "nop " ++ Text.quote node ++ " (" ++ op ++ ") lacks a data input or output"

namespace Shape

/-- Whether a reshape target keeps every dimension of a shape: an entry equals its dimension,
copies it, or is a final `-1`. -/
def keptBy : Shape → List Int64 → Bool
  | [], [] => true
  | dim :: dims, entry :: entries =>
      (entry = 0 || (entry = -1 && entries.isEmpty) || entry = dim) && keptBy dims entries
  | _, _ => false

end Shape

namespace Graph

/-- Whether a reshape node is known to keep the shape of its input. -/
def keepsShape (graph : Graph) (propagation : Propagation) (node : Node) : Bool :=
  let state := propagation.state (node.input 0)
  let shape := if state.isKnown then state.shape? else graph.knownShape? (node.input 0)
  let target := (propagation.state (node.input 1)).value?.or (node.constants.get? (node.input 1))
  match shape, target with
  | some dims, some target => Shape.keptBy dims target.words
  | _, _ => false

/-- Whether a node only passes its first input on. -/
def isPassThrough (graph : Graph) (propagation : Propagation) (node : Node) : Bool :=
  node.op = "Unsqueeze" || node.op = "Dropout" || node.op = "Identity" ||
    (node.op = "Reshape" && graph.keepsShape propagation node)

/-- The first output of a node, other than its main one, that is read or declared. -/
def secondaryInUse? (graph : Graph) (node : Node) : Option String :=
  (node.outputs.drop 1).find? fun tensor =>
    tensor ≠ "" && (!(graph.consumersOf tensor).isEmpty || graph.isOutput tensor)

/-- Let the readers of one tensor read another, also where the tensor is a declared output. -/
def substitute (graph : Graph) (old replacement : String) : Graph :=
  let graph := if graph.isOutput old then graph.renameOutput old replacement else graph
  graph.rewire old replacement

/-- Take a node that passes a tensor on out of the graph. -/
def bypassNode (propagation : Propagation) (state : Reduction) (id : Nat) :
    Logged (Except SimplifyError Reduction) := do
  match state.graph.node? id with
  | none => return .ok state
  | some node =>
      if !state.graph.isPassThrough propagation node then return .ok state
      let input := node.input 0
      let output := node.output 0
      if input = "" || output = "" then return .error (.incompleteNop node.name node.op)
      match state.graph.secondaryInUse? node with
      | some tensor =>
          let entry := node.entry .debug "secondary output in use, keeping node"
          report { entry with fields := entry.fields ++ [("tensor", tensor)] }
          return .ok state
      | none =>
          let graph ← state.graph.unlinkLogged id
          let entry := node.entry .info "removed nop"
          report { entry with fields := entry.fields ++ [("tensor", input)] }
          return .ok ⟨graph.substitute output input, state.removed ++ [node.name]⟩

/-- Bypass the listed nodes, up to the first that cannot be. What was done before is kept. -/
def bypassNodes (propagation : Propagation) :
    Reduction → List Nat → Logged (Reduction × Option SimplifyError)
  | state, [] => return (state, none)
  | state, id :: rest => do
      match ← bypassNode propagation state id with
      | .ok next => bypassNodes propagation next rest
      | .error cause => return (state, some cause)

/-- Bypass every node that only passes its first input on. -/
def bypassNops (graph : Graph) (propagation : Propagation) :
    Logged (Reduction × Option SimplifyError) :=
  bypassNodes propagation ⟨graph, []⟩ (graph.live.map Node.id)

/-- A simplified graph with the names of the folded and of the bypassed nodes. -/
structure Simplified where
  graph : Graph
  folded : List String
  bypassed : List String

/-- Fold constants and bypass nodes that change nothing. -/
def simplify (graph : Graph) (propagation : Propagation) :
    Logged (Simplified × Option SimplifyError) := do
  let folding ← graph.foldConstants propagation
  let (bypassing, cause) ← folding.graph.bypassNops propagation
  return (⟨bypassing.graph, folding.removed, bypassing.removed⟩, cause)

end Graph

end StaticNet
