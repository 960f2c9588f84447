import StaticNet.Batch
import StaticNet.Layer.BufferCode
import StaticNet.Program.Basic
import StaticNet.Program.Schedule
import StaticNet.Storage.Pool
import StaticNet.Weights.Layout

/-! # Emitting programs

The pieces of a program are collected first: buffers and layers are declared and allocated, layers
are run, layers are deleted and buffers released. The pieces are then rendered as a batch; empty
texts are dropped.
-/

namespace StaticNet

/-- A fragment that is still to be rendered. The label says what it is about when that fails. -/
structure Draft where
  phase : Phase
  owner : String
  label : String
  call : TemplateCall

/-- A draft that has no text. -/
structure DraftError where
  phase : Phase
  owner : String
  label : String
  cause : Template.RenderError
deriving DecidableEq

/-- The wording of a draft error. -/
def DraftError.message (failure : DraftError) : String :=
  failure.phase.name ++ " of " ++ failure.owner ++ ": " ++ failure.label ++ failure.cause.message

/-- Why there is no program. -/
inductive EmissionError where
  | input (cause : StorageError)
  | storage (node : String) (cause : StorageError)
  | weightRank (node : String) (cause : WeightRankError)
  | cancelled
  | draft (failure : DraftError)
deriving DecidableEq

/-- The wording of an emission error. -/
def EmissionError.message : EmissionError → String
  | .input cause => cause.message
  | .storage node cause => "node " ++ Text.quote node ++ ": " ++ cause.message
  | .weightRank node cause => "node " ++ Text.quote node ++ ": " ++ cause.message
  | .cancelled => "context canceled"
  | .draft failure => failure.message

namespace Emission

/-- What has been collected so far: the drafts, the buffers to be released, the tensors seen, and
the number of weights bound into each table. -/
structure Collection where
  drafts : List Draft
  owned : List Buffer
  seen : List String
  kernelCount : Nat
  biasCount : Nat

/-- The empty collection. -/
def Collection.empty : Collection := ⟨[], [], [], 0, 0⟩

/-- A computation that collects drafts. -/
abbrev Collecting := ExceptT EmissionError Allocating

/-- The draft of a buffer fragment. -/
def bufferDraft (phase : Phase) (buffer : Buffer) (call : TemplateCall) : Draft :=
  ⟨phase, buffer.name, "buffer " ++ buffer.name ++ ": ", call⟩

/-- The draft of a layer in a phase. -/
def layerDraft (phase : Phase) (task : Task) : Draft :=
  { phase
    owner := task.node.name
    label := "node " ++ Text.quote task.layer.node ++ " (" ++ task.layer.variant ++ "): "
    call := task.layer.call phase }

/-- Declare and allocate the buffer of a tensor, once. -/
def holdBuffer (graph : Graph) (wrap : StorageError → EmissionError) (state : Collection)
    (tensor : String) : Collecting Collection := do
  if state.seen.contains tensor then return state
  let buffer ← ExceptT.adapt wrap (BufferPool.storedBuffer graph tensor)
  return { state with
    seen := tensor :: state.seen
    owned := state.owned ++ [buffer]
    drafts := state.drafts ++
      [ bufferDraft .declaration buffer buffer.declarationCode,
        bufferDraft .allocation buffer buffer.allocationCode ] }

/-- The number of weights bound into a table. -/
def Collection.bound (state : Collection) : BindingTable → Nat
  | .kernels => state.kernelCount
  | .biases => state.biasCount

/-- Count one more weight of a table. -/
def Collection.count (state : Collection) : BindingTable → Collection
  | .kernels => { state with kernelCount := state.kernelCount + 1 }
  | .biases => { state with biasCount := state.biasCount + 1 }

/-- Bind a constant input of a node to the next position of its table, once. -/
def bindWeight (graph : Graph) (node : String) (state : Collection) (tensor : String) :
    Collecting Collection := do
  if state.seen.contains tensor then return state
  let buffer ← ExceptT.adapt (EmissionError.storage node) (BufferPool.storedBuffer graph tensor)
  let table := buffer.bindingTable
  let binding ← ExceptT.adapt (EmissionError.weightRank node)
    (liftM (buffer.bindingCode (Int64.ofNat (state.bound table))))
  let state := state.count table
  return { state with
    seen := tensor :: state.seen
    owned := state.owned ++ [buffer]
    drafts := state.drafts ++
      [ bufferDraft .declaration buffer buffer.declarationCode,
        bufferDraft .allocation buffer binding ] }

/-- Bind the weights of a node, in the order in which the weights file lists them. -/
def bindWeights (graph : Graph) (state : Collection) (node : Node) : Collecting Collection :=
  if node.holdsWeights then node.constantNames.foldlM (bindWeight graph node.name) state
  else return state

/-- The outputs of a node that need a buffer: the first, and those that are read or declared. -/
def storedOutputs (graph : Graph) (node : Node) : List String :=
  (node.outputs.zipIdx.filter fun output =>
    output.1 ≠ "" &&
      (output.2 = 0 || graph.isOutput output.1 || !(graph.consumersOf output.1).isEmpty)).map
    Prod.fst

/-- Collect the declarations and allocations of a task. -/
def addTask (graph : Graph) (state : Collection) (task : Task) : Collecting Collection := do
  let state ← bindWeights graph state task.node
  let state ← (storedOutputs graph task.node).foldlM
    (holdBuffer graph (.storage task.node.name)) state
  return { state with
    drafts := state.drafts ++ [layerDraft .declaration task, layerDraft .allocation task] }

/-- Name and shape of the tensors of a list. -/
def shapeLines (graph : Graph) (tensors : List String) : List String :=
  (tensors.filter fun tensor => tensor ≠ "").map fun tensor =>
    tensor ++ ": " ++ Shape.textOf (graph.knownShape? tensor)

/-- The comment that says where the code of a task comes from. -/
def provenance (graph : Graph) (task : Task) : TemplateCall :=
  let node := task.node
  { template := "program/provenance"
    parameters := Dict.ofList
      [ ("step", .int (Int64.ofNat task.step)), ("name", .text node.name), ("op", .text node.op),
        ("attrs", .texts (node.attributes.lines ": ")),
        ("inputs", .text (",".intercalate node.inputs)),
        ("outputs", .text (",".intercalate node.outputs)),
        ("shapes", .texts (shapeLines graph node.inputs ++ shapeLines graph node.outputs)) ] }

/-- The drafts that run a task. -/
def executionDrafts (graph : Graph) (task : Task) : List Draft :=
  [ ⟨.execution, task.node.name, "", provenance graph task⟩, layerDraft .execution task ]

/-- Collect the drafts of a program. -/
def collect (graph : Graph) (tasks : List Task) : Collecting Collection := do
  let state ← (graph.inputs.map Edge.id).foldlM (holdBuffer graph .input) .empty
  let state ← tasks.foldlM (addTask graph) state
  return { state with
    drafts := state.drafts ++ tasks.flatMap (executionDrafts graph) ++
      tasks.map (layerDraft .deletion) ++
      state.owned.map fun buffer => bufferDraft .deletion buffer buffer.cleanupCode }

/-- Render a draft. -/
def renderDraft (renderer : Template.Renderer) (draft : Draft) : Except DraftError Fragment :=
  match draft.call.render renderer with
  | .ok text => .ok ⟨draft.phase, draft.owner, text⟩
  | .error cause => .error ⟨draft.phase, draft.owner, draft.label, cause⟩

/-- Render drafts as a batch and drop those without text. -/
def render (renderer : Template.Renderer) (cancelled : Bool) (drafts : List Draft) :
    Except EmissionError (List Fragment) :=
  let drafts := drafts.toArray
  match Batch.run cancelled fun (index : Fin drafts.size) => renderDraft renderer drafts[index] with
  | .ok fragments => .ok (fragments.filter fun fragment => fragment.text ≠ "")
  | .error .cancelled => .error .cancelled
  | .error (.job failure) => .error (.draft failure)

/-- The parameters of the run function: the graph inputs, then the outputs. -/
def runParameters (graph : Graph) : Allocating String := do
  let names ← (graph.inputs ++ graph.outputs).mapM fun edge => do
    return "pico_cnn::naive::Tensor *" ++ (← BufferPool.buffer graph edge.id).name
  return ", ".intercalate names

end Emission

/-- Emit the program of a schedule. -/
def Program.emit (graph : Graph) (tasks : List Task) (renderer : Template.Renderer)
    (cancelled : Bool) : ExceptT EmissionError Allocating Program := do
  let collection ← Emission.collect graph tasks
  let fragments ← Emission.render renderer cancelled collection.drafts
  let runParameters ← Emission.runParameters graph
  return ⟨fragments, collection.kernelCount, collection.biasCount, runParameters⟩

end StaticNet
