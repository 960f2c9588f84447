import StaticNet.Graph.Build
import StaticNet.Layer.Selection
import StaticNet.Program.Artifacts
import StaticNet.Program.Emission
import StaticNet.Simplification.Bypass
import StaticNet.Simplification.ShapeMerge
import StaticNet.Storage.LiveRange
import StaticNet.Storage.Plan

/-! # The compiler

A graph description is built, propagated, simplified, propagated again, given layers, scheduled,
emitted and planned. Every stage reports to the journal, also when a later one fails.
-/

namespace StaticNet

/-- What a compilation depends on besides the graph. An empty model name stands for the name of
the graph. -/
structure Compiler where
  modelName : String
  alignment : Int64
  renderer : Template.Renderer
  cancelled : Bool

/-- Why there is no network. -/
inductive CompileError where
  | build (cause : GraphError)
  | propagate (cause : PropagationError)
  | simplify (cause : SimplifyError)
  | propagateAgain (cause : PropagationError)
  | interface (cause : InterfaceError)
  | select (cause : SelectionError)
  | schedule (cause : ScheduleError)
  | emit (cause : EmissionError)
  | order (cause : OrderError)
  | plan (cause : PlanError)
  | artifact (cause : ArtifactError)
deriving DecidableEq

/-- The wording of a compile error. -/
def CompileError.message : CompileError → String
  | .build cause => "build graph: " ++ cause.message
  | .propagate cause => "propagate: " ++ cause.message
  | .simplify cause => "simplify: " ++ cause.message
  | .propagateAgain cause => "propagate simplified graph: " ++ cause.message
  | .interface cause => cause.message
  | .select cause => cause.message
  | .schedule cause => cause.message
  | .emit cause => "emit: " ++ cause.message
  | .order cause => cause.message
  | .plan cause => "plan memory: " ++ cause.message
  | .artifact cause => cause.message

/-- A compiled network with what led to it. -/
structure Compilation where
  modelName : String
  graph : Graph
  propagation : Propagation
  folded : List String
  bypassed : List String
  conflicts : List Conflict
  pool : BufferPool
  plan : Plan
  tasks : List Task
  program : Program
  artifacts : Artifacts

namespace Compiler

/-- The name of the network. -/
def nameFor (compiler : Compiler) (graph : Graph) : String :=
  if compiler.modelName ≠ "" then compiler.modelName
  else if graph.name ≠ "" then graph.name
  else "network"

/-- An entry about a model. -/
def progress (model message : String) (fields : List (String × String)) : Entry :=
  ⟨.info, message, ("model", model) :: fields⟩

/-- A graph after simplification. -/
structure Simplification where
  graph : Graph
  propagation : Propagation
  folded : List String
  bypassed : List String
  conflicts : List Conflict

/-- Propagate, simplify and propagate again. Bypassing nodes changes which tensors reach their
consumers. -/
def simplified (graph : Graph) : ExceptT CompileError Logged Simplification := do
  let first ← ExceptT.adapt CompileError.propagate (Propagator.builtin.run graph)
  let (reduced, failure) ← graph.simplify first
  if let some cause := failure then throw (.simplify cause)
  let second ← ExceptT.adapt CompileError.propagateAgain (Propagator.builtin.run reduced.graph)
  let merging ← reduced.graph.adoptShapes second
  return ⟨merging.graph, second, reduced.folded, reduced.bypassed, merging.conflicts⟩

/-- Select a layer for every live node. -/
def selectAll (graph : Graph) : ExceptT SelectionError Allocating (List (Nat × Layer)) :=
  graph.live.mapM fun node => do return (node.id, ← Layer.select graph node)

/-- Select layers, schedule them and emit the program. -/
def lower (compiler : Compiler) (graph : Graph) :
    ExceptT CompileError Allocating (List Task × Program) := do
  let layers ← ExceptT.adapt CompileError.select (selectAll graph)
  let tasks ← (Schedule.ofGraph graph fun id => layers.lookup id).mapError CompileError.schedule
  let program ← ExceptT.adapt CompileError.emit
    (Program.emit graph tasks compiler.renderer compiler.cancelled)
  return (tasks, program)

/-- A graph description brought down to a program. -/
structure Lowering where
  modelName : String
  simplification : Simplification
  interface : Interface
  pool : BufferPool
  tasks : List Task
  program : Program

/-- Bring a graph description down to a program. -/
def lowered (compiler : Compiler) (spec : GraphSpec) : ExceptT CompileError Logged Lowering := do
  let built ← (Graph.build spec).mapError CompileError.build
  let modelName := compiler.nameFor built
  report (progress modelName "graph built" [("nodes", toString built.size)])
  let simplification ← simplified built
  let graph := simplification.graph
  report (progress modelName "graph simplified"
    [ ("nodes", toString graph.size), ("folded", toString simplification.folded.length),
      ("bypassed", toString simplification.bypassed.length) ])
  let interface ← (Interface.ofGraph graph).mapError CompileError.interface
  let (outcome, pool) ← (compiler.lower graph).run.run BufferPool.empty
  let (tasks, program) ← outcome
  return { modelName, simplification, interface, pool, tasks, program }

/-- Compile a graph description. -/
def compile (compiler : Compiler) (spec : GraphSpec) :
    ExceptT CompileError Logged Compilation := do
  let ⟨modelName, simplification, interface, pool, tasks, program⟩ ← compiler.lowered spec
  program.validate.mapError CompileError.order
  let plan ← (Plan.ofBuffers compiler.alignment pool.buffers).mapError CompileError.plan
  report (progress modelName "buffers assigned"
    [("buffers", toString pool.buffers.length), ("bytes", Text.word plan.total)])
  let artifacts ← (Artifacts.build modelName interface tasks program compiler.renderer).mapError
    CompileError.artifact
  report (progress modelName "code generated"
    [("kernels", toString program.kernelCount), ("biases", toString program.biasCount)])
  return { simplification with modelName, pool, plan, tasks, program, artifacts }

end Compiler

namespace Compilation

/-- The shapes of tensors, one to a line; an absent tensor has a dash. -/
def shapeColumn (graph : Graph) (tensors : List String) : String :=
  "\n".intercalate (tensors.map fun tensor =>
    if tensor = "" then "-" else Shape.textOf (graph.knownShape? tensor))

/-- The row of a task. -/
def taskRow (graph : Graph) (task : Task) : List String :=
  let node := task.node
  [ toString task.step, node.name, node.op, task.layer.variant, "\n".intercalate node.inputs,
    shapeColumn graph node.inputs, "\n".intercalate node.outputs,
    shapeColumn graph node.outputs ]

/-- A table with a row for every task. -/
def table (compilation : Compilation) : String :=
  Text.Grid.render
    { header :=
        ["step", "name", "op", "variant", "inputs", "input shapes", "outputs", "output shapes"]
      rows := compilation.tasks.map (taskRow compilation.graph)
      alignment := .byContent }

/-- The chart of the live ranges of the schedule. -/
def chart (compilation : Compilation) : String :=
  let order := compilation.tasks.map Task.node
  LiveRange.chart (LiveRange.ofOrder compilation.graph order) order.length

end Compilation

end StaticNet
