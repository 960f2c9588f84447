import StaticNet.Graph.Edit
import StaticNet.Propagation.Arithmetic
import StaticNet.Propagation.Layout
import StaticNet.Propagation.Window

/-! # Propagation to a fixed point

Knowledge starts from the constants and the declared inputs of a graph and is propagated node by
node until nothing changes. A node is visited again when the knowledge about one of its inputs has
changed; the number of visits is bounded.
-/

namespace StaticNet

/-- The transfer functions by operator, and a bound on node visits where zero means the default. -/
structure Propagator where
  transfers : Dict Transfer
  visitLimit : Nat

/-- What propagation found out. -/
structure Propagation where
  states : Dict Knowledge
  unhandled : List String
  visits : Nat

/-- Why propagation has no result. -/
inductive PropagationError where
  | noFixpoint (visits : Nat)
  | trap
deriving DecidableEq

/-- The wording of a propagation error. -/
def PropagationError.message : PropagationError → String
  | .noFixpoint visits =>
      "propagation did not reach a fixed point after " ++ toString visits ++ " visits"
  | .trap => "trap"

namespace Propagation

/-- The result that knows nothing. -/
def nothing : Propagation := ⟨.empty, [], 0⟩

/-- What is known about a tensor. -/
def state (propagation : Propagation) (tensor : String) : Knowledge :=
  (propagation.states.get? tensor).getD .unknown

/-- Whether a node has outputs and all of those present have known values. -/
def folds (propagation : Propagation) (node : Node) : Bool :=
  !node.outputs.isEmpty &&
    node.outputs.all fun tensor => tensor = "" || (propagation.state tensor).isExact

end Propagation

/-- The built-in transfer functions. -/
def Transfer.builtin : Dict Transfer :=
  Dict.ofList
    [ ("MaxPool", ⟨false, Transfer.pool⟩),
      ("AveragePool", ⟨false, Transfer.pool⟩),
      ("Conv", ⟨false, Transfer.convolution⟩),
      ("GlobalAveragePool", ⟨false, Transfer.globalPool⟩),
      ("GlobalMaxPool", ⟨false, Transfer.globalPool⟩),
      ("Transpose", ⟨false, Transfer.transpose⟩),
      ("Unsqueeze", ⟨true, Transfer.unsqueeze⟩),
      ("Shape", ⟨true, Transfer.shapeVector⟩),
      ("Gather", ⟨true, Transfer.gather⟩),
      ("Concat", ⟨true, Transfer.concat⟩),
      ("Reshape", ⟨true, Transfer.reshape⟩),
      ("Flatten", ⟨false, Transfer.flatten⟩),
      ("Pad", ⟨true, Transfer.pad⟩),
      ("MatMul", ⟨false, Transfer.matMul⟩),
      ("Gemm", ⟨false, Transfer.gemm⟩),
      ("Add", ⟨true, Transfer.pointwise Binary64.add⟩),
      ("Sub", ⟨true, Transfer.pointwise Binary64.sub⟩),
      ("Mul", ⟨true, Transfer.pointwise Binary64.mul⟩),
      ("Div", ⟨true, Transfer.pointwise Binary64.div⟩),
      ("BatchNormalization", ⟨false, Transfer.sameShape⟩),
      ("Clip", ⟨false, Transfer.sameShape⟩),
      ("Relu", ⟨false, Transfer.sameShape⟩),
      ("Sigmoid", ⟨false, Transfer.sameShape⟩),
      ("Tanh", ⟨false, Transfer.sameShape⟩),
      ("Softmax", ⟨false, Transfer.sameShape⟩),
      ("LRN", ⟨false, Transfer.sameShape⟩),
      ("Identity", ⟨false, Transfer.sameShape⟩),
      ("Dropout", ⟨false, Transfer.dropout⟩),
      ("Constant", ⟨true, Transfer.constant⟩) ]

namespace Propagator

/-- The propagator of the built-in transfer functions. -/
def builtin : Propagator := ⟨Transfer.builtin, 0⟩

/-- The knowledge before the first visit. -/
def initialStates (graph : Graph) : Dict Knowledge :=
  let constants := graph.constants.entries.map fun entry => (entry.1, Knowledge.exact entry.2)
  let inputs := graph.inputs.filterMap fun edge =>
    edge.shape.map fun shape => (edge.id, Knowledge.shape shape)
  Dict.ofList (constants ++ inputs)

/-- What a transfer function is told about an input of its node. -/
def inputState (graph : Graph) (folds : Bool) (states : Dict Knowledge) (tensor : String) :
    Knowledge :=
  if tensor = "" then .unknown
  else
    let known := (states.get? tensor).getD .unknown
    if !folds && (graph.isInput tensor || graph.isConstant tensor) then known.forgetValue
    else known

/-- The knowledge that the shape table gives about the outputs of a node. -/
def tableStates (graph : Graph) (node : Node) : List Knowledge :=
  node.outputs.map fun tensor => Knowledge.ofShape? (graph.recordedShape? tensor).join

/-- What one visit of a node finds out about its outputs. -/
def evaluate (propagator : Propagator) (graph : Graph) (states : Dict Knowledge) (node : Node) :
    TransferResult :=
  match propagator.transfers.get? node.op with
  | none => .ok (tableStates graph node)
  | some transfer =>
      transfer.apply node (node.inputs.map (inputState graph transfer.folds states))

/-- Whether an operator has a transfer function. -/
def handles (propagator : Propagator) (op : String) : Bool := propagator.transfers.contains op

/-- A run in progress: the knowledge so far, the nodes still to be visited, and the ids of the
nodes without a transfer function. -/
structure Progress where
  states : Dict Knowledge
  queue : List Nat
  unhandled : List Nat

/-- Append the ids that are not queued yet. -/
def enqueue (queue : List Nat) (ids : List Nat) : List Nat :=
  ids.foldl (fun queue id => if queue.contains id then queue else queue ++ [id]) queue

/-- Record what is known about an output. Consumers are queued when the knowledge changed. -/
def record (graph : Graph) (progress : Progress) (tensor : String) (next : Knowledge) :
    Progress :=
  let unchanged := match progress.states.get? tensor with
    | some previous => previous.agrees next
    | none => !next.isKnown
  if tensor = "" || unchanged then progress
  else
    { progress with
      states := progress.states.insert tensor next
      queue := enqueue progress.queue ((graph.consumersOf tensor).map Node.id) }

/-- Record the results of a visit; outputs without a result are unknown. -/
def recordAll (graph : Graph) (node : Node) (results : List Knowledge) (progress : Progress) :
    Progress :=
  node.outputs.zipIdx.foldl
    (fun progress output =>
      record graph progress output.1 (results.getD output.2 .unknown)) progress

/-- The entry that reports a failed visit. -/
def failureEntry (node : Node) (cause : TransferError) : Entry :=
  let message := if cause.isDeferral then "transfer deferred" else "transfer failed"
  let entry := node.entry (if cause.isDeferral then .debug else .warning) message
  { entry with fields := entry.fields ++ [("error", cause.message)] }

/-- Note a node without a transfer function, the first time it is visited. -/
def noteUnhandled (propagator : Propagator) (node : Node) (progress : Progress) :
    Logged Progress := do
  if propagator.handles node.op || progress.unhandled.contains node.id then return progress
  report (node.entry .warning "no transfer function, using shape table")
  return { progress with unhandled := progress.unhandled ++ [node.id] }

/-- Visit one node. -/
def visit (propagator : Propagator) (graph : Graph) (node : Node) (progress : Progress) :
    ExceptT PropagationError Logged Progress := do
  let progress ← noteUnhandled propagator node progress
  match propagator.evaluate graph progress.states node with
  | .ok results => return recordAll graph node results progress
  | .error (.tensor .trap) => throw .trap
  | .error cause => do
      report (failureEntry node cause)
      return recordAll graph node [] progress

/-- Visit nodes until none is queued. The fuel is the number of visits that are left. -/
def loop (propagator : Propagator) (graph : Graph) (limit : Nat) :
    Nat → Progress → ExceptT PropagationError Logged (Progress × Nat)
  | fuel, progress =>
      match progress.queue, fuel with
      | [], left => return (progress, limit - left)
      | _ :: _, 0 => throw (.noFixpoint limit)
      | id :: queue, left + 1 => do
          let progress := { progress with queue }
          match graph.node? id with
          | none => loop propagator graph limit left progress
          | some node => do
              let progress ← propagator.visit graph node progress
              loop propagator graph limit left progress

/-- The bound on node visits: 64 per node unless one is given. -/
def limit (propagator : Propagator) (graph : Graph) : Nat :=
  if propagator.visitLimit = 0 then 64 * (graph.size + 1) else propagator.visitLimit

/-- Propagate knowledge through a graph. -/
def run (propagator : Propagator) (graph : Graph) :
    ExceptT PropagationError Logged Propagation := do
  let start : Progress := ⟨initialStates graph, graph.live.map Node.id, []⟩
  let limit := propagator.limit graph
  let (progress, visits) ← loop propagator graph limit limit start
  let unhandled := graph.live.filter fun node => progress.unhandled.contains node.id
  return ⟨progress.states, unhandled.map Node.name, visits⟩

end Propagator

end StaticNet
