import StaticNet.Proofs.Graph.Attachment

/-! # Folding step by step

Folding a node attaches its known outputs to their readers and then removes nodes. It is a run of
such steps, so that what each of them keeps holds of the folded graph.
-/

namespace StaticNet.Graph

variable {propagation : Propagation}

/-! ## One node -/

/-- The second graph is the first one after folding a node: its known outputs are attached to their
readers, and then it is removed. -/
structure Folds (propagation : Propagation) (node : Node) (before after : Graph) : Prop where
  member : node ∈ before.live
  known : propagation.folds node = true
  undeclared : before.yieldsOutput node = false
  enriched : Enriched propagation before (before.attachOutputs propagation node)
  removed : Removed (before.attachOutputs propagation node) node.id after

/-- A node with known outputs and no declared one is dispensable once its outputs are attached. -/
private theorem dispensable_attachOutputs {graph : Graph} (coherent : graph.Coherent) {node : Node}
    (folds : propagation.folds node = true) (undeclared : graph.yieldsOutput node = false) :
    (graph.attachOutputs propagation node).Dispensable node := by
  have enriched := Enriched.of_attachOutputs propagation coherent node
  constructor
  · rw [yieldsOutput, show (graph.attachOutputs propagation node).isOutput = graph.isOutput by
      funext tensor; rw [isOutput, enriched.outputs, isOutput]]
    exact undeclared
  · rintro tensor written ⟨reader, member, read⟩
    obtain ⟨output, present⟩ := List.mem_filter.mp written
    simp only [Propagation.folds, Bool.and_eq_true, List.all_eq_true, Bool.or_eq_true] at folds
    have exact : (propagation.state tensor).isExact = true :=
      (folds.2 tensor output).resolve_left fun absent => of_decide_eq_true present
        (of_decide_eq_true absent)
    obtain ⟨old, oldMember, same⟩ := enriched.live member
    exact isConstant_of_isExact coherent output exact
      ⟨old, oldMember, Node.congr_strip same Node.reads (fun _ => rfl) ▸ read⟩

/-- Removing a node does not hang on what is attached to it. -/
private theorem Dispensable.of_bare {graph : Graph} {node other : Node}
    (dispensable : graph.Dispensable node) (same : other.bare = node.bare) :
    graph.Dispensable other := by
  have writes : other.writes = node.writes := Node.congr_strip same Node.writes fun _ => rfl
  have outputs : other.outputs = node.outputs := Node.congr_strip same Node.outputs fun _ => rfl
  constructor
  · rw [yieldsOutput, outputs]
    exact dispensable.undeclared
  · exact writes ▸ dispensable.constant

/-- A node that is not folded keeps its place because its outputs are not all known, or because one
of them is declared. -/
theorem foldNode_spec {state next : Reduction} {id : Nat} (coherent : state.graph.Coherent)
    (yields : (foldNode propagation state id).Yields next) :
    (next.graph = state.graph ∧ ∀ node, state.graph.node? id = some node →
        propagation.folds node = true → state.graph.yieldsOutput node = true) ∨
      ∃ node, node.id = id ∧
        next.graph = ((state.graph.attachOutputs propagation node).remove id).graph ∧
          Folds propagation node state.graph next.graph := by
  rw [foldNode] at yields
  split at yields
  · next absent =>
    exact .inl ⟨congrArg _ (Logged.Yields.of_pure yields), by simp [absent]⟩
  · next node found =>
    split at yields
    · next unfolded =>
      refine .inl ⟨congrArg _ (Logged.Yields.of_pure yields), fun other present known => ?_⟩
      cases found.symm.trans present
      rw [known] at unfolded
      cases unfolded
    · next folds =>
      split at yields
      · next declared =>
        refine .inl ⟨congrArg _ (Logged.Yields.of_pure (Logged.Yields.of_report yields)),
          fun other present _ => ?_⟩
        cases found.symm.trans present
        exact declared
      · next undeclared =>
        obtain ⟨graph, removal, rest⟩ := Logged.Yields.of_bind yields
        rw [Logged.Yields.of_pure (Logged.Yields.of_report rest), removeLogged_yields removal]
        obtain rfl : node.id = id := coherent.placed id node found
        have known : propagation.folds node = true := by simpa using folds
        have notYields := Bool.eq_false_iff.mpr undeclared
        have enriched := Enriched.of_attachOutputs propagation coherent node
        have view := enriched.nodes node.id
        rw [found, Option.map_some, Option.map_eq_some_iff] at view
        obtain ⟨other, present, same⟩ := view
        have sameId : other.id = node.id := Node.congr_strip same Node.id fun _ => rfl
        have removed := removed_remove (enriched.coherent coherent) (sameId ▸ present)
          ((dispensable_attachOutputs coherent known notYields).of_bare same)
        exact .inr ⟨node, rfl, rfl, mem_live_iff.mpr ⟨_, found⟩, known, notYields, enriched,
          sameId ▸ removed⟩

/-! ## All nodes -/

/-- What folding one node keeps, folding every node keeps. -/
theorem foldConstants_induction (good : Graph → Prop)
    (fold : ∀ node before after, before.Coherent → Folds propagation node before after →
      good before → good after)
    {graph : Graph} {folding : Reduction} (coherent : graph.Coherent) (start : good graph)
    (yields : (graph.foldConstants propagation).Yields folding) :
    folding.graph.Coherent ∧ good folding.graph := by
  have keeps : ∀ (state : Reduction) (id : Nat) (next : Reduction),
      (state.graph.Coherent ∧ good state.graph) → (foldNode propagation state id).Yields next →
      next.graph.Coherent ∧ good next.graph := by
    rintro state id next ⟨coherentState, goodState⟩ step
    rcases foldNode_spec coherentState step with ⟨unchanged, -⟩ | ⟨node, -, -, folds⟩
    · exact unchanged ▸ ⟨coherentState, goodState⟩
    · exact ⟨folds.removed.coherent, fold node _ _ coherentState folds goodState⟩
  exact Logged.Yields.foldlM_invariant keeps ⟨coherent, start⟩ yields

/-- What attaching known values and taking nodes away keep, folding keeps. -/
theorem foldConstants_invariant {good : Graph → Prop}
    (enrich : ∀ before after, Enriched propagation before after → good before → good after)
    (shrink : ∀ before after, Shrinks before after → good before → good after)
    {graph : Graph} {folding : Reduction} (coherent : graph.Coherent) (inStep : graph.InStep)
    (start : good graph) (yields : (graph.foldConstants propagation).Yields folding) :
    folding.graph.Coherent ∧ folding.graph.InStep ∧ good folding.graph := by
  refine foldConstants_induction (fun graph => graph.InStep ∧ good graph) ?_ coherent
    ⟨inStep, start⟩ yields
  rintro node before after coherent folds ⟨inStep, kept⟩
  exact ⟨folds.removed.shrinks.inStep (inStep.attachOutputs coherent propagation node),
    shrink _ _ folds.removed.shrinks (enrich _ _ folds.enriched kept)⟩

end StaticNet.Graph
