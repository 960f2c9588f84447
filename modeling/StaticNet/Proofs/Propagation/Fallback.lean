import StaticNet.Proofs.Propagation.Stability

/-! # The shape table in propagation

Propagation reads the shape table at the nodes without a transfer function, for the outputs that are
present. A run over a graph whose table says the same there goes the same way, and what it finds out
about these outputs is what the table says.
-/

namespace StaticNet

/-- Knowledge that agrees with a shape that may be unknown is that shape. -/
theorem Knowledge.shape?_of_agrees {shape : Option Shape} {knowledge : Knowledge}
    (agrees : (Knowledge.ofShape? shape).agrees knowledge = true)
    (known : knowledge.isKnown = true) (stated : knowledge ≠ .unstated) :
    knowledge.shape? = shape := by
  rw [Knowledge.agrees, Bool.and_eq_true, decide_eq_true_eq] at agrees
  obtain ⟨dims, values⟩ := agrees
  cases shape with
  | none =>
    have stated : knowledge.dims? = some (knowledge.shape?.getD []) := if_pos known
    rw [stated] at dims
    cases dims
  | some shape =>
    cases knowledge with
    | unknown => cases known
    | unstated => exact absurd rfl stated
    | shape other => exact dims.symm
    | exact value => cases values

namespace Propagator

variable {propagator : Propagator} {graph : Graph} {shapes : Dict (Option Shape)}

/-- A shape table says the same about the outputs of the nodes without a transfer function. -/
def SameFallback (propagator : Propagator) (graph : Graph) (shapes : Dict (Option Shape)) : Prop :=
  ∀ node ∈ graph.live, propagator.transfers.get? node.op = none → ∀ tensor ∈ node.writes,
    (shapes.get? tensor).join = (graph.recordedShape? tensor).join

/-- Recording looks at the results for the outputs that are present. -/
theorem recordAll_congr {node : Node} {results others : List Knowledge}
    (same : ∀ index tensor, node.outputs[index]? = some tensor → tensor ≠ "" →
      results.getD index .unknown = others.getD index .unknown) (progress : Progress) :
    recordAll graph node results progress = recordAll graph node others progress := by
  rw [recordAll, recordAll]
  refine List.foldl_ext _ _ _ fun progress output listed => ?_
  by_cases absent : output.1 = ""
  · rw [absent, record_absent, record_absent]
  · rw [same output.2 output.1 (List.mem_zipIdx_iff_getElem?.mp listed) absent]

theorem getD_tableStates {node : Node} {index : Nat} {tensor : String}
    (position : node.outputs[index]? = some tensor) :
    (tableStates graph node).getD index .unknown =
      Knowledge.ofShape? (graph.recordedShape? tensor).join := by
  rw [tableStates, List.getD_eq_getElem?_getD, List.getElem?_map, position]
  rfl

theorem visit_of_sameFallback (same : SameFallback propagator graph shapes) {node : Node}
    (member : node ∈ graph.live) (progress : Progress) :
    propagator.visit { graph with shapes } node progress =
      propagator.visit graph node progress := by
  rw [visit, visit]
  refine congrArg _ (funext fun noted => ?_)
  cases unhandled : propagator.transfers.get? node.op with
  | some transfer =>
    have evaluated : propagator.evaluate { graph with shapes } noted.states node =
        propagator.evaluate graph noted.states node := by
      rw [evaluate, evaluate, unhandled]
      rfl
    rw [evaluated]
    rfl
  | none =>
    have fallback : ∀ graph : Graph, propagator.evaluate graph noted.states node =
        .ok (tableStates graph node) := fun graph => by rw [evaluate, unhandled]
    rw [fallback, fallback]
    have agree : ∀ index tensor, node.outputs[index]? = some tensor → tensor ≠ "" →
        (tableStates { graph with shapes } node).getD index .unknown =
          (tableStates graph node).getD index .unknown := by
      intro index tensor position present
      have written : tensor ∈ node.writes :=
        Node.mem_writes_iff.mpr ⟨List.mem_of_getElem? position, present⟩
      rw [getD_tableStates position, getD_tableStates position]
      exact congrArg Knowledge.ofShape? (same node member unhandled tensor written)
    exact congrArg pure (recordAll_congr agree noted)

theorem loop_of_sameFallback (same : SameFallback propagator graph shapes) (limit fuel : Nat)
    (progress : Progress) :
    loop propagator { graph with shapes } limit fuel progress =
      loop propagator graph limit fuel progress := by
  induction fuel generalizing progress with
  | zero =>
    unfold loop
    cases progress.queue <;> rfl
  | succ left ih =>
    unfold loop
    cases progress.queue with
    | nil => rfl
    | cons id queue =>
      have view : { graph with shapes }.node? id = graph.node? id := rfl
      dsimp only
      rw [view]
      cases found : graph.node? id with
      | none => exact ih _
      | some node =>
        have member : node ∈ graph.live := Graph.mem_live_iff.mpr ⟨id, found⟩
        dsimp only
        rw [visit_of_sameFallback same member]
        exact congrArg _ (funext ih)

/-- A run does not hang on what else the shape table says. -/
theorem run_of_sameFallback (same : SameFallback propagator graph shapes) :
    propagator.run { graph with shapes } = propagator.run graph := by
  rw [run, run, loop_of_sameFallback same]
  rfl

/-! ## What a run finds out without transfer functions -/

/-- What has no transfer function leaves no shape of its outputs unstated. -/
theorem get?_ne_unstated {stale : List (Nat × Nat)} (traced : graph.Traced stale)
    {propagation : Propagation} (yields : (propagator.run graph).run.Yields (.ok propagation))
    {node : Node} (member : node ∈ graph.live)
    (unhandled : propagator.transfers.get? node.op = none) {tensor : String}
    (written : tensor ∈ node.writes) : propagation.states.get? tensor ≠ some .unstated := by
  refine run_invariant (fun states => states.get? tensor ≠ some .unstated) ?_ ?_ yields
  · intro other otherMember progress next visited stated
    obtain ⟨results, noted, found, states, -, rfl⟩ := visit_cases visited
    rcases get?_recordAll graph other results noted tensor with
      same | ⟨index, position, present, new⟩
    · rwa [same, states]
    · -- Only the node itself writes the tensor, and it has found out what the table says.
      have wrote : tensor ∈ other.writes :=
        Node.mem_writes_iff.mpr ⟨List.mem_of_getElem? position, present⟩
      have id := traced.single.agree other otherMember node member tensor wrote written
      obtain rfl : other = node := traced.placed.eq_of_id otherMember member id
      rw [evaluate, unhandled] at found
      cases found
      rw [new, getD_tableStates position]
      cases (graph.recordedShape? tensor).join <;> simp [Knowledge.ofShape?]
  · intro found
    rcases List.mem_append.mp (Dict.mem_of_get?_ofList found) with constant | input
    · obtain ⟨_, -, pair⟩ := List.mem_map.mp constant
      cases (Prod.mk.inj pair).2
    · obtain ⟨edge, -, same⟩ := List.mem_filterMap.mp input
      obtain ⟨_, -, pair⟩ := Option.map_eq_some_iff.mp same
      cases (Prod.mk.inj pair).2

/-- At a node without a transfer function, what is known in the end is what the table says. -/
theorem shape?_of_unhandled {stale : List (Nat × Nat)} (traced : graph.Traced stale)
    {propagation : Propagation} (yields : (propagator.run graph).run.Yields (.ok propagation))
    {node : Node} (member : node ∈ graph.live)
    (unhandled : propagator.transfers.get? node.op = none) {tensor : String}
    (written : tensor ∈ node.writes) (known : (propagation.state tensor).isKnown = true) :
    (propagation.state tensor).shape? = (graph.recordedShape? tensor).join := by
  obtain ⟨results, found, confirmed⟩ := settled_run traced yields node member
  rw [evaluate, unhandled] at found
  cases found
  obtain ⟨listed, present⟩ := Node.mem_writes_iff.mp written
  obtain ⟨index, position⟩ := List.mem_iff_getElem?.mp listed
  have agrees := confirmed index tensor position present
  rw [getD_tableStates position] at agrees
  have stated := get?_ne_unstated traced yields member unhandled written
  rw [Propagation.state] at known ⊢
  generalize propagation.states.get? tensor = entry at agrees stated known ⊢
  cases entry with
  | none => cases known
  | some knowledge => exact Knowledge.shape?_of_agrees agrees known fun same => stated (same ▸ rfl)

end Propagator

end StaticNet
