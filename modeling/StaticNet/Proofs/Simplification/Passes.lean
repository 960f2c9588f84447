import StaticNet.Proofs.Simplification.Constants

/-! # Passes over all nodes

Folding and bypassing visit every live node once. Whatever a pass has left in place has been
visited: it is not folded because it yields a declared output, and not bypassed because another of
its outputs was in use.
-/

namespace StaticNet.Graph

variable {propagation : Propagation} {graph before after : Graph}

/-! ## Indices -/

theorem Traced.attachOutputs (traced : graph.Traced []) (propagation : Propagation) (node : Node) :
    (graph.attachOutputs propagation node).Traced [] := by
  refine List.foldlRecOn (motive := fun graph : Graph => graph.Traced []) node.outputs _ traced ?_
  intro graph traced tensor _
  split
  · exact List.foldlRecOn (motive := fun graph : Graph => graph.Traced []) _ _ traced
      fun _ traced consumer _ => traced.pinConstant consumer.id tensor _
  · exact traced

theorem Traced.foldConstants {folding : Reduction} (traced : graph.Traced [])
    (yields : (graph.foldConstants propagation).Yields folding) : folding.graph.Traced [] := by
  have start : (Reduction.mk graph []).graph.Traced [] := traced
  have keeps : ∀ (state : Reduction) (id : Nat) (next : Reduction), state.graph.Traced [] →
      (foldNode propagation state id).Yields next → next.graph.Traced [] := by
    intro state id next traced step
    rcases foldNode_spec traced.coherent step with ⟨unchanged, -⟩ | ⟨node, -, same, -⟩
    · exact unchanged ▸ traced
    · rw [same]
      exact (traced.attachOutputs propagation node).remove id
  exact Logged.Yields.foldlM_invariant keeps start yields

theorem Traced.substitute (traced : graph.Traced []) (old replacement : String) :
    (graph.substitute old replacement).Traced [] := by
  rw [Graph.substitute]
  split
  · exact (traced.edit (.renameOutput old replacement)).rewire old replacement
  · exact traced.rewire old replacement

theorem Traced.bypassNode {state next : Reduction} {id : Nat} (traced : state.graph.Traced [])
    (yields : (bypassNode propagation state id).Yields (.ok next)) : next.graph.Traced [] := by
  obtain ⟨-, -, ⟨unchanged, -⟩ | ⟨node, -, same, -⟩⟩ :=
    bypassNode_spec traced.placed traced.readersListed yields
  · exact unchanged ▸ traced
  · rw [same]
    exact (traced.unlink id).substitute _ _

/-- With exact indices, an output counts as in use exactly when it is declared or read. -/
theorem isSome_secondaryInUse?_iff {stale : List (Nat × Nat)} (traced : graph.Traced stale)
    {node : Node} :
    (graph.secondaryInUse? node).isSome = true ↔
      ∃ tensor ∈ node.outputs.drop 1, tensor ≠ "" ∧ graph.Uses tensor := by
  constructor
  · intro found
    obtain ⟨tensor, inUse⟩ := Option.isSome_iff_exists.mp found
    have member := List.mem_of_find?_eq_some inUse
    have test := List.find?_some inUse
    simp only [ne_eq, decide_not, Bool.and_eq_true, Bool.not_eq_true', decide_eq_false_iff_not,
      Bool.or_eq_true, List.isEmpty_eq_false_iff] at test
    refine ⟨tensor, member, test.1, ?_⟩
    rcases test.2 with inhabited | declared
    · obtain ⟨reader, consumer⟩ := List.exists_mem_of_ne_nil _ inhabited
      obtain ⟨id, listed, present⟩ := List.mem_filterMap.mp consumer
      have live : reader ∈ graph.live := mem_live_iff.mpr ⟨id, present⟩
      rw [← traced.placed id reader present] at listed
      exact .inr ⟨reader, live, traced.listsReaders reader live tensor listed⟩
    · exact .inl declared
  · rintro ⟨tensor, member, present, used⟩
    refine Option.ne_none_iff_isSome.mp fun unused => ?_
    exact idle_of_secondaryInUse? traced.placed traced.readersListed unused tensor member present
      used

/-! ## Folding -/

/-- After folding, a node with known outputs yields a declared one. -/
theorem yieldsOutput_of_foldConstants {folding : Reduction} (coherent : graph.Coherent)
    (yields : (graph.foldConstants propagation).Yields folding) {id : Nat} {node : Node}
    (found : folding.graph.node? id = some node) (known : propagation.folds node = true) :
    folding.graph.yieldsOutput node = true := by
  suffices visited : ∀ node, folding.graph.node? id = some node → propagation.folds node = true →
      folding.graph.yieldsOutput node = true from visited node found known
  refine Logged.Yields.foldlM_each (fun state : Reduction => state.graph.Coherent)
    (fun state id => ∀ node, state.graph.node? id = some node →
      propagation.folds node = true → state.graph.yieldsOutput node = true) ?_ coherent yields ?_
  · intro state target next coherent step
    rcases foldNode_spec coherent step with ⟨unchanged, visited⟩ | ⟨node, same, -, folds⟩
    · rw [unchanged]
      exact ⟨coherent, visited, fun _ done => done⟩
    · refine ⟨folds.removed.coherent, fun other present => ?_,
        fun other done last present known => ?_⟩
      · rw [← same, folds.removed.gone] at present
        cases present
      · obtain ⟨old, oldFound, frame⟩ := folds.node? present
        rw [Node.congr_strip frame propagation.folds fun _ => rfl] at known
        have declared : next.graph.isOutput = state.graph.isOutput := by
          funext tensor
          rw [isOutput, isOutput, folds.removed.shrinks.outputs, folds.enriched.outputs]
        rw [yieldsOutput, Node.congr_strip frame Node.outputs (fun _ => rfl), declared]
        exact done old oldFound known
  · cases present : graph.node? id with
    | none => exact .inl fun node found => by cases found
    | some node =>
      obtain rfl := coherent.placed id node present
      exact .inr (List.mem_map_of_mem (mem_live_iff.mpr ⟨_, present⟩))

/-! ## Bypassing -/

theorem Bypasses.gone {node : Node} (placed : before.Placed)
    (bypasses : Bypasses propagation node before after) :
    ∀ next ∈ after.live, next.id ≠ node.id := by
  intro next member same
  obtain ⟨old, oldMember, different, alike⟩ := bypasses.nodes next member
  exact different (placed.eq_of_id oldMember bypasses.member
    ((alike.id.trans id_redirect).symm.trans same))

/-- What has no place among the live nodes does not get one. -/
theorem absent_of_bypassNodes {ids : List Nat} {state : Reduction}
    {outcome : Reduction × Option SimplifyError} (traced : state.graph.Traced [])
    (yields : (bypassNodes propagation state ids).Yields outcome) {id : Nat}
    (absent : ∀ node ∈ state.graph.live, node.id ≠ id) :
    ∀ node ∈ outcome.1.graph.live, node.id ≠ id := by
  have keeps : ∀ node before after, Bypasses propagation node before after →
      (∀ node ∈ before.live, node.id ≠ id) → ∀ node ∈ after.live, node.id ≠ id := by
    intro node before after bypasses absent next member
    obtain ⟨old, oldMember, -, alike⟩ := bypasses.nodes next member
    rw [alike.id, id_redirect]
    exact absent old oldMember
  exact (bypassNodes_invariant keeps ids traced.placed traced.readersListed absent yields).2.2

/-- What bypassing a node keeps, a pass keeps, and what is done about every listed node, by
bypassing it or because it is pinned, has been done in the end. -/
theorem bypassNodes_each {good : Graph → Prop} {done : Graph → Nat → Prop} {final : Reduction}
    (bypass : ∀ node before after, before.Traced [] → after.Traced [] →
      Bypasses propagation node before after → (∀ last ∈ final.graph.live, last.id ≠ node.id) →
        good before → good after ∧ done after node.id ∧ ∀ id, done before id → done after id)
    (pinned : ∀ graph id, graph.Traced [] → good graph → (∀ node, graph.node? id = some node →
      graph.isPassThrough propagation node = true → graph.Pinned node) → done graph id)
    {ids : List Nat} {state : Reduction} (traced : state.graph.Traced []) (start : good state.graph)
    (yields : (bypassNodes propagation state ids).Yields (final, none)) :
    final.graph.Traced [] ∧ good final.graph ∧
      ∀ id, done state.graph id ∨ id ∈ ids → done final.graph id := by
  induction ids generalizing state with
  | nil =>
    cases Logged.Yields.of_pure yields
    exact ⟨traced, start, fun id due => due.resolve_right List.not_mem_nil⟩
  | cons first rest ih =>
    obtain ⟨step, visited, others⟩ := Logged.Yields.of_bind yields
    cases step with
    | error cause => cases Logged.Yields.of_pure others
    | ok next =>
      have tracedNext := traced.bypassNode visited
      obtain ⟨-, -, ⟨unchanged, stays⟩ | ⟨node, rfl, -, bypasses⟩⟩ :=
        bypassNode_spec traced.placed traced.readersListed visited
      · obtain ⟨tracedFinal, goodFinal, doneFinal⟩ := ih tracedNext (unchanged ▸ start) others
        refine ⟨tracedFinal, goodFinal, fun id due => doneFinal id ?_⟩
        rw [unchanged]
        rcases due with earlier | listed
        · exact .inl earlier
        · rcases List.mem_cons.mp listed with rfl | later
          · exact .inl (pinned _ _ traced start stays)
          · exact .inr later
      · have gone := absent_of_bypassNodes tracedNext others (bypasses.gone traced.placed)
        obtain ⟨goodNext, doneNode, keeps⟩ := bypass node _ _ traced tracedNext bypasses gone start
        obtain ⟨tracedFinal, goodFinal, doneFinal⟩ := ih tracedNext goodNext others
        refine ⟨tracedFinal, goodFinal, fun id due => doneFinal id ?_⟩
        rcases due with earlier | listed
        · exact .inl (keeps id earlier)
        · rcases List.mem_cons.mp listed with rfl | later
          · exact .inl doneNode
          · exact .inr later

/-! ## Passes that leave a graph as it is -/

theorem foldConstants_idle {folding : Reduction}
    (yielding : ∀ node ∈ graph.live, propagation.folds node = true →
      graph.yieldsOutput node = true)
    (yields : (graph.foldConstants propagation).Yields folding) : folding = ⟨graph, []⟩ := by
  have keeps : ∀ (state : Reduction) (id : Nat) (next : Reduction), state = ⟨graph, []⟩ →
      (foldNode propagation state id).Yields next → next = ⟨graph, []⟩ := by
    rintro _ id next rfl step
    rw [foldNode] at step
    split at step
    · exact Logged.Yields.of_pure step
    · next node found =>
      split at step
      · exact Logged.Yields.of_pure step
      · next folds =>
        rw [if_pos (yielding node (mem_live_iff.mpr ⟨id, found⟩) (by simpa using folds))] at step
        exact Logged.Yields.of_pure (Logged.Yields.of_report step)
  exact Logged.Yields.foldlM_invariant keeps rfl yields

theorem bypassNops_idle {outcome : Reduction × Option SimplifyError}
    (pinned : ∀ node ∈ graph.live, graph.isPassThrough propagation node = true →
      graph.Pinned node)
    (yields : (graph.bypassNops propagation).Yields outcome) : outcome = (⟨graph, []⟩, none) := by
  have step : ∀ id next, (bypassNode propagation ⟨graph, []⟩ id).Yields next →
      next = .ok ⟨graph, []⟩ := by
    intro id next step
    rw [bypassNode] at step
    split at step
    · exact Logged.Yields.of_pure step
    · next node found =>
      split at step
      · exact Logged.Yields.of_pure step
      · next passes =>
        obtain ⟨input, output, secondary⟩ :=
          pinned node (mem_live_iff.mpr ⟨id, found⟩) (by simpa using passes)
        obtain ⟨tensor, inUse⟩ := Option.isSome_iff_exists.mp secondary
        simp only [input, output, decide_false, Bool.or_self, Bool.false_eq_true, if_false, inUse]
          at step
        exact Logged.Yields.of_pure (Logged.Yields.of_report step)
  rw [bypassNops] at yields
  generalize graph.live.map Node.id = ids at yields
  induction ids with
  | nil => exact Logged.Yields.of_pure yields
  | cons id rest ih =>
    obtain ⟨next, visited, others⟩ := Logged.Yields.of_bind yields
    cases step id next visited
    exact ih others

end StaticNet.Graph
