import StaticNet.Propagation.Fixpoint

/-! # Merging inferred shapes

Every shape that propagation found is written into the shape table. An inferred shape that differs
from a declared one, or from the entry that it replaces, is reported as a conflict. A shape that is
known but not stated counts as that of a scalar there.
-/

namespace StaticNet

/-- A tensor whose inferred shape differs from the one given before. -/
structure Conflict where
  tensor : String
  declared : Option Shape
  inferred : Option Shape
deriving DecidableEq

namespace Conflict

/-- The entry that reports a conflict. -/
def entry (conflict : Conflict) (message : String) : Entry :=
  ⟨.warning, message,
    [ ("tensor", conflict.tensor),
      ("declared", Shape.textOf conflict.declared),
      ("inferred", Shape.textOf conflict.inferred) ]⟩

end Conflict

namespace Propagation

/-- The known tensors with their shapes as far as stated, in name order. -/
def knownShapes (propagation : Propagation) : List (String × Option Shape) :=
  propagation.states.sortedKeys.filterMap fun tensor =>
    let state := propagation.state tensor
    if state.isKnown then some (tensor, state.shape?) else none

end Propagation

namespace Graph

/-- The shape that an inferred shape contradicts, and what is done about it. -/
def contradicted? (graph : Graph) (tensor : String) (inferred : Option Shape) :
    Option (Option Shape × String) :=
  match graph.statedShape? tensor with
  | some declared =>
      if declared = inferred.getD [] then none
      else some (some declared, "shape conflict, keeping declared shape")
  | none =>
      match graph.recordedShape? tensor with
      | some previous =>
          if previous.getD [] = inferred.getD [] then none
          else some (previous, "shape conflict, using inferred shape")
      | none => none

/-- A graph with the conflicts found so far. -/
structure Merging where
  graph : Graph
  conflicts : List Conflict

/-- Write one inferred shape into the shape table. -/
def adoptShape (state : Merging) (inferred : String × Option Shape) : Logged Merging := do
  let (tensor, shape) := inferred
  let graph := state.graph.recordShape tensor shape
  match state.graph.contradicted? tensor shape with
  | some (declared, message) =>
      let conflict : Conflict := ⟨tensor, declared, shape⟩
      report (conflict.entry message)
      return ⟨graph, state.conflicts ++ [conflict]⟩
  | none => return ⟨graph, state.conflicts⟩

/-- Write every inferred shape into the shape table, in name order. -/
def adoptShapes (graph : Graph) (propagation : Propagation) : Logged Merging :=
  propagation.knownShapes.foldlM adoptShape ⟨graph, []⟩

end Graph

end StaticNet
