import StaticNet.Proofs.Propagation.Absent
import StaticNet.Proofs.Simplification.Meaning

/-! # Simplification preserves meaning

The declared outputs of a simplified graph have the values of the declared outputs of the original,
whatever the operators compute and whatever is given for the inputs: knowledge and shapes have to
be sound for the evaluation, the bypassed operators have to pass their first input on, and no
inserted axis may be left after folding.
-/

namespace StaticNet.Graph

variable {operators : Interpretation} {given values : String → Tensor} {propagation : Propagation}

/-- A graph means given values, and its declared outputs have the values of a list. -/
structure Computes (operators : Interpretation) (given values : String → Tensor)
    (results : List Tensor) (graph : Graph) : Prop where
  means : Means operators given values graph
  results : (graph.outputs.map fun edge => values edge.id) = results

variable {results : List Tensor} {graph before after : Graph}

/-- The evaluation of a graph that yields results has these results. -/
theorem Computes.map_value (computes : Computes operators given values results graph) :
    (graph.outputs.map fun edge => graph.value operators given edge.id) = results := by
  rw [← computes.results]
  refine List.map_congr_left fun edge member => ?_
  have declared : graph.isOutput edge.id = true :=
    List.find?_isSome.mpr ⟨edge, member, decide_eq_true rfl⟩
  exact computes.means.solves.value_eq computes.means.acyclic (.inl declared)

theorem Computes.enrich (sound : propagation.Sound values)
    (nameless : (propagation.state "").value? = none)
    (enriched : Enriched propagation before after)
    (computes : Computes operators given values results before) :
    Computes operators given values results after where
  means := computes.means.enrich sound nameless enriched
  results := by
    rw [enriched.outputs]
    exact computes.results

theorem Computes.shrink (shrinks : Shrinks before after)
    (computes : Computes operators given values results before) :
    Computes operators given values results after where
  means := computes.means.shrink shrinks
  results := by
    rw [shrinks.outputs]
    exact computes.results

/-- What bypassing starts from and keeps. -/
structure Bypassable (operators : Interpretation) (given values : String → Tensor)
    (results : List Tensor) (graph : Graph) : Prop where
  computes : Computes operators given values results graph
  shares : graph.SharesConstants
  squeezed : ∀ node ∈ graph.live, node.op ≠ "Unsqueeze"

theorem Bypassable.bypass (passThrough : operators.PassesThrough)
    (sound : propagation.Sound values) (nameless : (propagation.state "").value? = none)
    {node : Node} (bypasses : Bypasses propagation node before after)
    (bypassable : Bypassable operators given values results before) :
    Bypassable operators given values results after := by
  obtain ⟨⟨means, same⟩, shares, squeezed⟩ := bypassable
  have other := squeezed node bypasses.member
  refine ⟨⟨means.bypass passThrough sound nameless shares bypasses other, ?_⟩,
    shares.bypass bypasses, ?_⟩
  · rw [bypasses.map_outputs (bypasses.values_eq passThrough sound nameless means shares other)]
    exact same
  · intro next member
    obtain ⟨old, present, -, alike⟩ := bypasses.nodes next member
    rw [alike.op, op_redirect]
    exact squeezed old present

/-- The declared outputs of a simplified graph have the values that they had before, also when
simplification stops at a node that cannot be bypassed. -/
theorem map_value_simplify {spec : GraphSpec} {propagator : Propagator}
    {journal later : Journal} {simplified : Simplified} {stop : Option SimplifyError}
    (built : build spec = .ok graph) (acyclic : graph.Acyclic) (single : graph.SingleAssignment)
    (propagated : ((propagator.run graph).run.run journal).1 = .ok propagation)
    (sound : propagation.Sound (graph.value operators given))
    (shapes : graph.ShapesSound (graph.value operators given))
    (passThrough : operators.PassesThrough)
    (squeezed : ∀ node ∈ ((graph.foldConstants propagation).run later).1.graph.live,
      node.op ≠ "Unsqueeze")
    (run : ((graph.simplify propagation).run later).1 = (simplified, stop)) :
    (simplified.graph.outputs.map fun edge => simplified.graph.value operators given edge.id) =
      graph.outputs.map fun edge => graph.value operators given edge.id := by
  have facts := built_of_build built
  have nameless := Propagator.absent_run (.of_run propagated) single.named
  have start : Computes operators given (graph.value operators given)
      (graph.outputs.map fun edge => graph.value operators given edge.id) graph :=
    ⟨⟨facts.solves_value acyclic single, acyclic, shapes, single.named⟩, rfl⟩
  obtain ⟨folded, inStep, middle⟩ := foldConstants_invariant
    (fun _ _ enriched => Computes.enrich sound nameless enriched) (fun _ _ => Computes.shrink)
    facts.coherent facts.inStep start (.of_run rfl)
  have rest : (((graph.foldConstants propagation).run later).1.graph.bypassNops propagation >>=
      fun outcome => pure ((⟨outcome.1.graph,
        ((graph.foldConstants propagation).run later).1.removed, outcome.1.removed⟩ : Simplified),
          outcome.2)).Yields (simplified, stop) := ⟨_, run⟩
  obtain ⟨outcome, bypassed, last⟩ := Logged.Yields.of_bind rest
  obtain ⟨-, -, final⟩ := bypassNops_invariant
    (fun _ _ _ bypasses => Bypassable.bypass passThrough sound nameless bypasses)
    folded.placed folded.readers ⟨middle, inStep.shares, squeezed⟩ bypassed
  cases Logged.Yields.of_pure last
  exact final.computes.map_value

/-! ## A graph of which nothing is left -/

/-- The input is passed on and then reshaped to its own shape, which is computed on the way. -/
def shapeChain : GraphSpec where
  name := "chain"
  nodes :=
    [ ⟨"same", "Identity", ["x"], ["h"], .empty⟩,
      ⟨"shape", "Shape", ["x"], ["s"], .empty⟩,
      ⟨"reshape", "Reshape", ["h", "s"], ["y"], .empty⟩ ]
  inputs := [⟨"x", 1, some [2]⟩]
  outputs := [⟨"y", 1, some [2]⟩]
  initializers := .empty
  values := []

/-- The graph of the chain. -/
def shapeGraph : Graph := (build shapeChain).toOption.get rfl

/-- What propagation finds out about the chain. -/
def shapeKnowledge : Propagation :=
  ((Propagator.builtin.run shapeGraph).run.run []).1.toOption.get rfl

/-- The operators of the chain. -/
def shapeOperators : Interpretation := fun op _ arguments _ =>
  match op, arguments with
  | "Shape", some first :: _ => .vector first.dims
  | _, some first :: _ => first
  | _, _ => default

/-- Two numbers, given for the input of the chain. -/
def shapeInput : Tensor := ⟨some [2], .float32, [default, default], 0⟩

theorem shapeOperators_passesThrough : shapeOperators.PassesThrough where
  identity := fun _ _ _ => rfl
  dropout := fun _ _ _ => rfl
  reshape := fun _ _ _ _ _ => rfl

/-- Simplifying the chain leaves no node, and its output still has the value of its input. -/
theorem map_value_simplify_shapeChain :
    ((shapeGraph.simplify shapeKnowledge).run []).1.1.graph.live = [] ∧
      ((shapeGraph.simplify shapeKnowledge).run []).1.1.graph.outputs.map (fun edge =>
          ((shapeGraph.simplify shapeKnowledge).run []).1.1.graph.value shapeOperators
            (fun _ => shapeInput) edge.id) =
        shapeGraph.outputs.map fun edge =>
          shapeGraph.value shapeOperators (fun _ => shapeInput) edge.id := by
  have built : build shapeChain = .ok shapeGraph := rfl
  have acyclic : shapeGraph.Acyclic :=
    acyclic_of_level (fun tensor => ["x", "h", "s", "y"].idxOf tensor) (by decide +kernel)
  have single : shapeGraph.SingleAssignment := ⟨by decide +kernel, rfl⟩
  have propagated : ((Propagator.builtin.run shapeGraph).run.run []).1 = .ok shapeKnowledge := rfl
  have sound : shapeKnowledge.Sound (shapeGraph.value shapeOperators fun _ => shapeInput) :=
    Propagation.sound_of_states (by decide +kernel)
  have dims : ∀ edge ∈ shapeGraph.inputs ++ shapeGraph.outputs, edge.shape =
      some (shapeGraph.value shapeOperators (fun _ => shapeInput) edge.id).dims := by
    decide +kernel
  have shapes : shapeGraph.ShapesSound (shapeGraph.value shapeOperators fun _ => shapeInput) :=
    ⟨fun edge member _ shape => Option.some.inj ((dims edge member).symm.trans shape),
      fun _ _ recorded => nomatch recorded⟩
  have squeezed : ∀ node ∈ ((shapeGraph.foldConstants shapeKnowledge).run []).1.graph.live,
      node.op ≠ "Unsqueeze" := by decide +kernel
  exact ⟨by decide +kernel, map_value_simplify built acyclic single propagated sound shapes
    shapeOperators_passesThrough squeezed rfl⟩

end StaticNet.Graph
