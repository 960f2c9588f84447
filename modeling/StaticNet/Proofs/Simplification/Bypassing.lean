import StaticNet.Proofs.Simplification.Folding
import StaticNet.Simplification.Bypass

/-! # Bypassing step by step

Bypassing a node takes it out of the graph, lets the readers of its first output read its first
input and renames the declared outputs accordingly. None of its other outputs is in use.
-/

namespace StaticNet

/-- The operators of nodes that may only pass their first input on. -/
def GraphSpec.passingOperators : List String := ["Unsqueeze", "Dropout", "Identity", "Reshape"]

namespace Graph

variable {propagation : Propagation}

theorem mem_passingOperators {graph : Graph} {node : Node}
    (passes : graph.isPassThrough propagation node = true) :
    node.op ∈ GraphSpec.passingOperators := by
  simp only [isPassThrough, Bool.or_eq_true, decide_eq_true_eq, Bool.and_eq_true] at passes
  simp only [GraphSpec.passingOperators, List.mem_cons, List.not_mem_nil, or_false]
  tauto

/-! ## Redirected nodes -/

section redirect

variable (old replacement : String) (value : Option Tensor) (node : Node)

theorem redirect_core :
    (redirect old replacement value node).core = redirect old replacement value node.core := by
  unfold redirect
  by_cases read : node.inputs.contains old = true
  · have readCore : node.core.inputs.contains old = true := read
    rw [if_pos read, if_pos readCore]
    cases value <;> rfl
  · have unreadCore : ¬ node.core.inputs.contains old = true := read
    rw [if_neg read, if_neg unreadCore]

/-- Redirecting a node touches its inputs and its constants only. -/
theorem redirect_eq : ∃ constants, redirect old replacement value node =
    { node with
      inputs := node.inputs.map fun tensor => if tensor = old then replacement else tensor
      constants } := by
  unfold redirect
  split
  · cases value with
    | none => exact ⟨node.constants, rfl⟩
    | some value => exact ⟨node.constants.insert replacement value, rfl⟩
  · next unread =>
    have same : (node.inputs.map fun tensor => if tensor = old then replacement else tensor) =
        node.inputs := by
      refine (List.map_congr_left fun tensor member => ?_).trans (List.map_id _)
      rw [if_neg]
      · rfl
      · rintro rfl
        exact unread (List.contains_iff_mem.mpr member)
    refine ⟨node.constants, ?_⟩
    rw [same]

variable {old replacement value node}

theorem get?_constants_redirect {tensor : String} {attached : Tensor}
    (found : (redirect old replacement value node).constants.get? tensor = some attached) :
    node.constants.get? tensor = some attached ∨ tensor = replacement ∧ value = some attached := by
  unfold redirect at found
  split at found
  · cases value with
    | none => exact .inl found
    | some value =>
      simp only [Node.attach, Dict.get?_insert] at found
      split at found
      · next same => exact .inr ⟨same, found⟩
      · exact .inl found
  · exact .inl found

theorem nodup_keys_redirect (distinct : node.constants.keys.Nodup) :
    (redirect old replacement value node).constants.keys.Nodup := by
  unfold redirect
  split
  · cases value with
    | none => exact distinct
    | some value => exact Dict.nodup_keys_insert node.constants _ _ distinct
  · exact distinct

theorem inputs_redirect : (redirect old replacement value node).inputs =
    node.inputs.map fun tensor => if tensor = old then replacement else tensor := by
  obtain ⟨constants, same⟩ := redirect_eq old replacement value node
  rw [same]

theorem outputs_redirect : (redirect old replacement value node).outputs = node.outputs := by
  obtain ⟨constants, same⟩ := redirect_eq old replacement value node
  rw [same]

/-- A redirected node reads what it read before, with the replacement for the old tensor. -/
theorem mem_reads_redirect (oldPresent : old ≠ "") (present : replacement ≠ "") {tensor : String} :
    tensor ∈ (redirect old replacement value node).reads ↔
      ∃ read ∈ node.reads, tensor = if read = old then replacement else read := by
  simp only [inputs_redirect, Node.reads, List.mem_filter, List.mem_map, decide_eq_true_eq]
  constructor
  · rintro ⟨⟨read, member, rfl⟩, named⟩
    refine ⟨read, ⟨member, ?_⟩, rfl⟩
    rintro rfl
    rw [if_neg (Ne.symm oldPresent)] at named
    exact named rfl
  · rintro ⟨read, ⟨member, named⟩, rfl⟩
    refine ⟨⟨read, member, rfl⟩, ?_⟩
    split
    · exact present
    · exact named

theorem writes_redirect : (redirect old replacement value node).writes = node.writes := by
  rw [Node.writes, Node.writes, outputs_redirect]

theorem id_redirect : (redirect old replacement value node).id = node.id := by
  obtain ⟨constants, same⟩ := redirect_eq old replacement value node
  rw [same]

/-- The inputs of a redirected node, position by position. -/
theorem input_redirect (present : old ≠ "") (index : Nat) :
    (redirect old replacement value node).input index =
      if node.input index = old then replacement else node.input index := by
  rw [Node.input, Node.input, inputs_redirect, List.getD_eq_getElem?_getD,
    List.getD_eq_getElem?_getD, List.getElem?_map]
  cases node.inputs[index]? with
  | none => simp [present.symm]
  | some tensor => rfl

theorem op_redirect : (redirect old replacement value node).op = node.op := by
  obtain ⟨constants, same⟩ := redirect_eq old replacement value node
  rw [same]

end redirect

/-! ## One step -/

/-- The second graph is the first one without a node that passes its first input on. -/
structure Bypasses (propagation : Propagation) (node : Node) (before after : Graph) : Prop where
  member : node ∈ before.live
  passes : before.isPassThrough propagation node = true
  input : node.input 0 ≠ ""
  output : node.output 0 ≠ ""
  idle : ∀ tensor ∈ node.outputs.drop 1, tensor ≠ "" → ¬ before.Uses tensor
  inputs : after.inputs = before.inputs
  outputs : after.outputs = before.outputs.map fun edge =>
    if edge.id = node.output 0 then { edge with id := node.input 0 } else edge
  constants : after.constants = before.constants
  shapes : after.shapes = before.shapes
  nodes : ∀ next ∈ after.live, ∃ old ∈ before.live, old ≠ node ∧
    next.Like (redirect (node.output 0) (node.input 0) (before.constants.get? (node.input 0)) old)
  kept : ∀ old ∈ before.live, old ≠ node → ∃ next ∈ after.live,
    next.Like (redirect (node.output 0) (node.input 0) (before.constants.get? (node.input 0)) old)

theorem idle_of_secondaryInUse? {graph : Graph} (placed : graph.Placed)
    (readers : graph.ReadersListed) {node : Node} (unused : graph.secondaryInUse? node = none) :
    ∀ tensor ∈ node.outputs.drop 1, tensor ≠ "" → ¬ graph.Uses tensor := by
  intro tensor member present used
  have idle := List.find?_eq_none.mp unused tensor member
  simp only [present, ne_eq, not_false_eq_true, decide_true, Bool.true_and, Bool.or_eq_true,
    Bool.not_eq_true', not_or, Bool.not_eq_false, List.isEmpty_iff] at idle
  rcases used with declared | ⟨reader, readerMember, read⟩
  · exact idle.2 declared
  · exact List.ne_nil_of_mem (readers.mem_consumersOf placed readerMember read) idle.1

/-- The view of a graph with one node taken out and its readers redirected. -/
private theorem map_core_substitute_unlink {graph : Graph} {target : Nat} {node : Node}
    (found : graph.node? target = some node) (old replacement : String) (id : Nat) :
    (((graph.unlink target).substitute old replacement).node? id).map Node.core =
      if id = target then none
      else (graph.node? id).map fun node =>
        (redirect old replacement (graph.constants.get? replacement) node).core := by
  have unlinked : ((graph.unlink target).node? id).map Node.core =
      if id = target then none else (graph.node? id).map Node.core := by
    rw [unlink, found, map_core_reindex, node?_set_none]
    split <;> rfl
  have constants : (graph.unlink target).constants = graph.constants := by
    rw [unlink, found]
    rfl
  have renamed : ∀ graph : Graph, ((graph.substitute old replacement).node? id).map Node.core =
      ((graph.node? id).map Node.core).map
        (redirect old replacement (graph.constants.get? replacement)) := by
    intro graph
    rw [substitute, rewire, map_core_reindex, node?_map, Option.map_map, Option.map_map]
    simp only [Function.comp_def, redirect_core]
    split <;> rfl
  rw [renamed, unlinked, constants]
  split
  · rfl
  · simp only [Option.map_map, Function.comp_def, redirect_core]

private theorem outputs_substitute (graph : Graph) (old replacement : String) :
    (graph.substitute old replacement).outputs = graph.outputs.map fun edge =>
      if edge.id = old then { edge with id := replacement } else edge := by
  rw [substitute]
  split
  · rfl
  · next undeclared =>
    refine ((List.map_congr_left fun edge member => ?_).trans (List.map_id _)).symm
    rw [if_neg]
    · rfl
    · intro same
      refine undeclared (List.find?_isSome.mpr ⟨edge, member, decide_eq_true same⟩)

theorem bypasses_substitute {graph : Graph} (placed : graph.Placed)
    (readers : graph.ReadersListed) {id : Nat} {node : Node} (found : graph.node? id = some node)
    (passes : graph.isPassThrough propagation node = true) (input : node.input 0 ≠ "")
    (output : node.output 0 ≠ "") (unused : graph.secondaryInUse? node = none) :
    Bypasses propagation node graph
      ((graph.unlink id).substitute (node.output 0) (node.input 0)) := by
  have view := map_core_substitute_unlink found (node.output 0) (node.input 0)
  have unlinked : (graph.unlink id) = { graph with nodes := graph.nodes.set id none }.reindex := by
    rw [unlink, found]
  refine ⟨mem_live_iff.mpr ⟨id, found⟩, passes, input, output,
    idle_of_secondaryInUse? placed readers unused, ?_, ?_, ?_, ?_, ?_, ?_⟩
  · rw [substitute, unlinked]
    split <;> rfl
  · rw [outputs_substitute, unlinked]
    rfl
  · rw [substitute, unlinked]
    split <;> rfl
  · rw [substitute, unlinked]
    split <;> rfl
  · intro next member
    obtain ⟨position, present⟩ := mem_live_iff.mp member
    have seen := view position
    rw [present, Option.map_some] at seen
    split at seen
    · cases seen
    · next different =>
      obtain ⟨old, oldFound, same⟩ := Option.map_eq_some_iff.mp seen.symm
      refine ⟨old, mem_live_iff.mpr ⟨position, oldFound⟩, ?_, same.symm⟩
      rintro rfl
      exact different ((placed position old oldFound).symm.trans (placed id old found))
  · intro old member different
    have seen := view old.id
    rw [placed.node?_of_mem member, Option.map_some, if_neg] at seen
    · obtain ⟨next, present, same⟩ := Option.map_eq_some_iff.mp seen
      exact ⟨next, mem_live_iff.mpr ⟨old.id, present⟩, same⟩
    · rintro rfl
      rw [placed.node?_of_mem member] at found
      exact different (Option.some.inj found)

private theorem placed_substitute_unlink {graph : Graph} (placed : graph.Placed) {target : Nat}
    {node : Node} (found : graph.node? target = some node) (old replacement : String) :
    ((graph.unlink target).substitute old replacement).Placed := by
  intro id next present
  have view := map_core_substitute_unlink found old replacement id
  rw [present, Option.map_some] at view
  split at view
  · cases view
  · obtain ⟨before, beforeFound, same⟩ := Option.map_eq_some_iff.mp view.symm
    have alike : next.Like (redirect old replacement (graph.constants.get? replacement) before) :=
      same.symm
    exact (alike.id.trans id_redirect).trans (placed id before beforeFound)

/-- What is used after a node has been bypassed stands for something that was used before. -/
theorem Bypasses.uses_before {node : Node} (bypasses : Bypasses propagation node before after)
    {tensor : String} (used : after.Uses tensor) :
    ∃ earlier, before.Uses earlier ∧
      tensor = if earlier = node.output 0 then node.input 0 else earlier := by
  rcases used with declared | ⟨reader, member, read⟩
  · obtain ⟨edge, listed, rfl⟩ := isOutput_iff.mp declared
    rw [bypasses.outputs] at listed
    obtain ⟨old, oldListed, rfl⟩ := List.mem_map.mp listed
    exact ⟨old.id, .inl (isOutput_iff.mpr ⟨old, oldListed, rfl⟩), apply_ite Edge.id ..⟩
  · obtain ⟨old, present, -, alike⟩ := bypasses.nodes reader member
    rw [alike.reads, mem_reads_redirect bypasses.output bypasses.input] at read
    obtain ⟨earlier, oldRead, same⟩ := read
    exact ⟨earlier, .inr ⟨old, present, oldRead⟩, same⟩

/-- Bypassing a node brings nothing into use. -/
theorem Bypasses.uses_of_uses {node : Node} (bypasses : Bypasses propagation node before after)
    {tensor : String} (used : after.Uses tensor) : before.Uses tensor := by
  obtain ⟨earlier, usedBefore, rfl⟩ := bypasses.uses_before used
  split
  · exact .inr ⟨node, bypasses.member, Node.reads_of_first bypasses.input⟩
  · exact usedBefore

/-- A writer of a tensor in use stays, unless the tensor is what the bypassed node passed on. -/
theorem Bypasses.writer_kept {node : Node} (bypasses : Bypasses propagation node before after)
    {tensor : String} (used : before.Uses tensor) (different : tensor ≠ node.output 0)
    (written : ∃ writer ∈ before.live, tensor ∈ writer.writes) :
    ∃ writer ∈ after.live, tensor ∈ writer.writes := by
  obtain ⟨writer, member, writes⟩ := written
  have other : writer ≠ node := by
    rintro rfl
    obtain ⟨output, present⟩ := Node.mem_writes_iff.mp writes
    rw [(Node.writes_of_first bypasses.output).2.2] at output
    exact bypasses.idle tensor ((List.mem_cons.mp output).resolve_left different) present used
  obtain ⟨next, present, alike⟩ := bypasses.kept writer member other
  exact ⟨next, present, by rwa [alike.writes, writes_redirect]⟩

theorem SharesConstants.bypass {node : Node} {before after : Graph}
    (bypasses : Bypasses propagation node before after) (shares : before.SharesConstants) :
    after.SharesConstants := by
  intro next member tensor value attached
  obtain ⟨old, present, -, alike⟩ := bypasses.nodes next member
  rw [alike.constants] at attached
  rw [bypasses.constants]
  rcases get?_constants_redirect attached with held | ⟨rfl, known⟩
  · exact shares old present tensor value held
  · exact known

theorem KeysDistinct.bypass {node : Node} {before after : Graph}
    (bypasses : Bypasses propagation node before after) (distinct : before.KeysDistinct) :
    after.KeysDistinct := by
  intro next member
  obtain ⟨old, present, -, alike⟩ := bypasses.nodes next member
  rw [alike.constants]
  exact nodup_keys_redirect (distinct old present)

/-! ## All steps -/

private theorem unlinkLogged_yields {graph after : Graph} {id : Nat}
    (yields : (graph.unlinkLogged id).Yields after) : after = graph.unlink id := by
  rw [unlinkLogged] at yields
  split at yields
  · exact Logged.Yields.of_pure (Logged.Yields.of_report yields)
  · exact Logged.Yields.of_pure yields

/-- A node that passes its first input on has a first input and a first output, and another output
that is in use. -/
structure Pinned (graph : Graph) (node : Node) : Prop where
  input : node.input 0 ≠ ""
  output : node.output 0 ≠ ""
  secondary : (graph.secondaryInUse? node).isSome = true

/-- A node that is not bypassed keeps its place because it does more than passing its first input
on. -/
theorem bypassNode_spec {state next : Reduction} {id : Nat} (placed : state.graph.Placed)
    (readers : state.graph.ReadersListed)
    (yields : (bypassNode propagation state id).Yields (.ok next)) :
    next.graph.Placed ∧ next.graph.ReadersListed ∧
      ((next.graph = state.graph ∧ ∀ node, state.graph.node? id = some node →
          state.graph.isPassThrough propagation node = true → state.graph.Pinned node) ∨
        ∃ node, node.id = id ∧
          next.graph = (state.graph.unlink id).substitute (node.output 0) (node.input 0) ∧
            Bypasses propagation node state.graph next.graph) := by
  rw [bypassNode] at yields
  split at yields
  · next absent =>
    cases Logged.Yields.of_pure yields
    exact ⟨placed, readers, .inl ⟨rfl, by simp [absent]⟩⟩
  · next node found =>
    split at yields
    · next stops =>
      cases Logged.Yields.of_pure yields
      refine ⟨placed, readers, .inl ⟨rfl, fun other present passes => ?_⟩⟩
      cases found.symm.trans present
      rw [passes] at stops
      cases stops
    · next passes =>
      dsimp only at yields
      split at yields
      · cases Logged.Yields.of_pure yields
      · next complete =>
        have named : node.input 0 ≠ "" ∧ node.output 0 ≠ "" := by simpa using complete
        split at yields
        · next tensor inUse =>
          cases Logged.Yields.of_pure (Logged.Yields.of_report yields)
          refine ⟨placed, readers, .inl ⟨rfl, fun other present _ => ?_⟩⟩
          cases found.symm.trans present
          exact ⟨named.1, named.2, Option.isSome_iff_exists.mpr ⟨tensor, inUse⟩⟩
        · next unused =>
          obtain ⟨unlinked, unlinking, rest⟩ := Logged.Yields.of_bind yields
          cases Logged.Yields.of_pure (Logged.Yields.of_report rest)
          cases unlinkLogged_yields unlinking
          exact ⟨placed_substitute_unlink placed found _ _, readersListed_reindex _,
            .inr ⟨node, placed id node found, rfl, bypasses_substitute placed readers found
              (by simpa using passes) named.1 named.2 unused⟩⟩

/-- What bypassing one node keeps, bypassing many keeps, also when it stops early. -/
theorem bypassNodes_invariant {good : Graph → Prop}
    (bypass : ∀ node before after, Bypasses propagation node before after →
      good before → good after)
    (ids : List Nat) {state : Reduction} {outcome : Reduction × Option SimplifyError}
    (placed : state.graph.Placed) (readers : state.graph.ReadersListed) (start : good state.graph)
    (yields : (bypassNodes propagation state ids).Yields outcome) :
    outcome.1.graph.Placed ∧ outcome.1.graph.ReadersListed ∧ good outcome.1.graph := by
  induction ids generalizing state with
  | nil =>
    rw [Logged.Yields.of_pure yields]
    exact ⟨placed, readers, start⟩
  | cons id rest ih =>
    obtain ⟨step, first, others⟩ := Logged.Yields.of_bind yields
    cases step with
    | error cause =>
      rw [Logged.Yields.of_pure others]
      exact ⟨placed, readers, start⟩
    | ok next =>
      obtain ⟨placedNext, readersNext, ⟨unchanged, -⟩ | ⟨node, -, -, bypasses⟩⟩ :=
        bypassNode_spec placed readers first
      · exact ih placedNext readersNext (unchanged ▸ start) others
      · exact ih placedNext readersNext (bypass node _ _ bypasses start) others

/-- What bypassing one node keeps, bypassing every node keeps. -/
theorem bypassNops_invariant {good : Graph → Prop}
    (bypass : ∀ node before after, Bypasses propagation node before after →
      good before → good after)
    {graph : Graph} {outcome : Reduction × Option SimplifyError} (placed : graph.Placed)
    (readers : graph.ReadersListed) (start : good graph)
    (yields : (graph.bypassNops propagation).Yields outcome) :
    outcome.1.graph.Placed ∧ outcome.1.graph.ReadersListed ∧ good outcome.1.graph := by
  have placedStart : (Reduction.mk graph []).graph.Placed := placed
  exact bypassNodes_invariant bypass _ placedStart readers start yields

end Graph

end StaticNet
