import StaticNet.Graph.Basic
import StaticNet.Text.Grid

/-! # Live ranges

The live range of a tensor runs from the step that produces it to the last step that reads it.
-/

namespace StaticNet

/-- The steps over which a tensor must be kept. -/
structure LiveRange where
  tensor : String
  start : Int
  stop : Int
deriving DecidableEq

namespace LiveRange

/-- Whether two ranges share a step. -/
def overlaps (left right : LiveRange) : Bool :=
  left.start ≤ right.stop && right.start ≤ left.stop

/-- The first and last steps of tensors, as far as they were seen. -/
structure Trace where
  starts : Dict Nat
  stops : Dict Nat

/-- Record what a node writes and reads at a step. -/
def Trace.visit (trace : Trace) (step : Nat) (node : Node) : Trace :=
  let written := node.outputs.filter fun tensor => tensor ≠ ""
  let starts := written.foldl (fun starts tensor => starts.insert tensor step) trace.starts
  let read := node.inputs.filter starts.contains
  ⟨starts, read.foldl (fun stops tensor => stops.insert tensor step) trace.stops⟩

/-- The steps of the tensors that the nodes of an order produce. -/
def trace (order : List Node) : Trace :=
  order.zipIdx.foldl (fun trace entry => trace.visit entry.2 entry.1) ⟨.empty, .empty⟩

/-- The live ranges of the tensors that the nodes of an order produce, in name order. A declared
output lives up to the last step, and a tensor that is never read ends where it starts. -/
def ofOrder (graph : Graph) (order : List Node) : List LiveRange :=
  let trace := trace order
  trace.starts.sortedKeys.map fun tensor =>
    let start := (trace.starts.get? tensor).getD 0
    let stop := if graph.isOutput tensor then order.length - 1
      else (trace.stops.get? tensor).getD start
    ⟨tensor, start, stop⟩

/-- The mark of a range at a step: start, alive or end. -/
def mark (range : LiveRange) (step : Int) : String :=
  if step = range.start then "s"
  else if range.start < step ∧ step < range.stop then "|"
  else if step = range.stop ∧ range.start < step then "e"
  else ""

/-- A chart with a column per range and a row per step. -/
def chart (ranges : List LiveRange) (steps : Nat) : String :=
  Text.Grid.render
    { header := "step" :: ranges.map LiveRange.tensor
      rows := (List.range steps).map fun step =>
        toString step :: ranges.map fun range => range.mark step
      alignment := .centred }

end LiveRange

end StaticNet
