import StaticNet.Layer.Basic

/-! # Schedules

A schedule runs the live nodes in declaration order, which must be such that every node reads only
graph inputs, constants, and tensors produced before it.
-/

namespace StaticNet

/-- One step of a schedule. -/
structure Task where
  step : Nat
  node : Node
  layer : Layer
deriving DecidableEq

/-- The task with the node as it now is in a graph. A node that is gone is kept as it was. -/
def Task.follow (task : Task) (graph : Graph) : Task :=
  { task with node := (graph.node? task.node.id).getD task.node }

/-- Why there is no schedule. -/
inductive ScheduleError where
  | notOrdered (node tensor : String)
  | notSelected (node op : String)
deriving DecidableEq

/-- The wording of a schedule error. -/
def ScheduleError.message : ScheduleError → String
  | .notOrdered node tensor =>
      "node " ++ Text.quote node ++ " reads " ++ Text.quote tensor ++
        " before it is produced: graph is not topologically ordered"
  | .notSelected node op =>
      "node " ++ Text.quote node ++ " (" ++ op ++ ") was not selected: no implementation"

namespace Schedule

/-- The first input of a node that is neither available nor constant. -/
def missingInput? (graph : Graph) (available : List String) (node : Node) : Option String :=
  node.inputs.find? fun tensor =>
    tensor ≠ "" && !available.contains tensor && !node.hasConstant tensor &&
      !graph.isConstant tensor

/-- The tasks of nodes, given the tensors available before them. -/
def ofNodes (graph : Graph) (layer? : Nat → Option Layer) :
    Nat → List String → List Node → Except ScheduleError (List Task)
  | _, _, [] => .ok []
  | step, available, node :: rest =>
      match missingInput? graph available node with
      | some tensor => .error (.notOrdered node.name tensor)
      | none =>
          match layer? node.id with
          | none => .error (.notSelected node.name node.op)
          | some layer => do
              let produced := node.outputs.filter fun tensor => tensor ≠ ""
              let tasks ← ofNodes graph layer? (step + 1) (produced ++ available) rest
              return ⟨step, node, layer⟩ :: tasks

/-- The schedule of a graph whose nodes have the given layers. -/
def ofGraph (graph : Graph) (layer? : Nat → Option Layer) : Except ScheduleError (List Task) :=
  ofNodes graph layer? 0 (graph.inputs.map Edge.id) graph.live

end Schedule

end StaticNet
