import StaticNet.Proofs.Graph.Removal
import StaticNet.Simplification.Fold

/-! # Attaching known values

Attaching the known outputs of a node to their readers adds constants and changes nothing else. The
added constants are values that propagation knows. A tensor that a live node reads is constant
afterwards, and what is attached to a node stays in step with the constants of the graph.
-/

namespace StaticNet

/-- A node without its constants. -/
def Node.bare (node : Node) : Node := { node with constants := .empty }

namespace Graph

variable {propagation : Propagation}

/-- What is attached to a live node is a constant of the graph. -/
def SharesConstants (graph : Graph) : Prop :=
  ∀ node ∈ graph.live, ∀ tensor value, node.constants.get? tensor = some value →
    graph.constants.get? tensor = some value

/-- Whatever has a value attached at a live node is a constant of the graph. -/
def SharesNames (graph : Graph) : Prop :=
  ∀ node ∈ graph.live, ∀ tensor, node.hasConstant tensor = true → graph.isConstant tensor = true

/-- The names of what is attached to a live node are distinct. -/
def KeysDistinct (graph : Graph) : Prop := ∀ node ∈ graph.live, node.constants.keys.Nodup

/-- Live nodes share the constants of the graph, and each is listed as a reader of those that it
has. Nothing is listed as a reader of the absent tensor. -/
structure InStep (graph : Graph) : Prop where
  shares : graph.SharesConstants
  listed : ∀ node ∈ graph.live, ∀ tensor value, node.constants.get? tensor = some value →
    tensor ≠ "" → node.id ∈ (graph.consumers.get? tensor).getD []
  absent : (graph.consumers.get? "").getD [] = []

/-- Attach a value to the nodes of a list of ids. -/
private def pinAll (graph : Graph) (ids : List Nat) (tensor : String) (value : Tensor) : Graph :=
  ids.foldl (fun graph id => graph.pinConstant id tensor value) graph

private theorem attachToConsumers_eq (graph : Graph) (tensor : String) (value : Tensor) :
    graph.attachToConsumers tensor value =
      graph.pinAll ((graph.consumersOf tensor).map Node.id) tensor value := by
  rw [attachToConsumers, pinAll, List.foldl_map]

private theorem node?_pinConstant (graph : Graph) (target id : Nat) (tensor : String)
    (value : Tensor) :
    (graph.pinConstant target tensor value).node? id =
      if id = target then (graph.node? id).map fun node => node.attach tensor value
      else graph.node? id := by
  rw [pinConstant]
  split
  · next absent =>
    split
    · next same => rw [same, absent, Option.map_none]
    · rfl
  · exact node?_updateNode _ target id _

private theorem node?_pinAll (ids : List Nat) (graph : Graph) (tensor : String) (value : Tensor)
    (id : Nat) :
    (graph.pinAll ids tensor value).node? id =
      if id ∈ ids then (graph.node? id).map fun node => node.attach tensor value
      else graph.node? id := by
  induction ids generalizing graph with
  | nil => rfl
  | cons first rest ih =>
    rw [pinAll, List.foldl_cons, ← pinAll, ih, node?_pinConstant]
    have twice : ∀ node : Node, (node.attach tensor value).attach tensor value =
        node.attach tensor value := by
      intro node
      simp only [Node.attach, Dict.insert_insert]
    by_cases same : id = first
    · subst same
      simp only [if_true, List.mem_cons, true_or, Option.map_map, Function.comp_def, twice,
        ite_self]
    · simp only [same, if_false, List.mem_cons, false_or]

private theorem pinConstant_eq (graph : Graph) (id : Nat) (tensor : String) (value : Tensor) :
    ∃ nodes, graph.pinConstant id tensor value = { graph with
      nodes
      constants := if (graph.node? id).isSome then graph.constants.insert tensor value
        else graph.constants } := by
  rw [pinConstant]
  cases graph.node? id with
  | none => exact ⟨graph.nodes, rfl⟩
  | some node => exact ⟨_, rfl⟩

private theorem pinAll_eq (ids : List Nat) (graph : Graph) (tensor : String) (value : Tensor) :
    ∃ nodes, graph.pinAll ids tensor value = { graph with
      nodes
      constants := if ids.any fun id => (graph.node? id).isSome then
        graph.constants.insert tensor value else graph.constants } := by
  induction ids generalizing graph with
  | nil => exact ⟨graph.nodes, rfl⟩
  | cons first rest ih =>
    obtain ⟨nodes, one⟩ := pinConstant_eq graph first tensor value
    obtain ⟨others, same⟩ := ih (graph.pinConstant first tensor value)
    have live : ∀ id, ((graph.pinConstant first tensor value).node? id).isSome =
        (graph.node? id).isSome := by
      intro id
      rw [node?_pinConstant]
      split
      · exact Option.isSome_map
      · rfl
    refine ⟨others, ?_⟩
    simp only [live] at same
    rw [pinAll, List.foldl_cons, ← pinAll, same, one, List.any_cons]
    cases (graph.node? first).isSome <;> cases rest.any fun id => (graph.node? id).isSome <;>
      simp [Dict.insert_insert]

/-- The second graph is the first one with known values attached: constants were added that
propagation knows, and each node has kept all else. -/
structure Enriched (propagation : Propagation) (before after : Graph) : Prop where
  inputs : after.inputs = before.inputs
  outputs : after.outputs = before.outputs
  shapes : after.shapes = before.shapes
  consumers : after.consumers = before.consumers
  nodes : ∀ id, (after.node? id).map Node.bare = (before.node? id).map Node.bare
  kept : ∀ tensor, before.isConstant tensor = true → after.isConstant tensor = true
  known : ∀ tensor value, after.constants.get? tensor = some value →
    before.constants.get? tensor = some value ∨ (propagation.state tensor).value? = some value
  distinct : before.KeysDistinct → after.KeysDistinct

namespace Enriched

variable {before middle after : Graph}

theorem refl (propagation : Propagation) (graph : Graph) : Enriched propagation graph graph where
  inputs := rfl
  outputs := rfl
  shapes := rfl
  consumers := rfl
  nodes := fun _ => rfl
  kept := fun _ known => known
  known := fun _ _ known => .inl known
  distinct := fun distinct => distinct

theorem trans (first : Enriched propagation before middle)
    (second : Enriched propagation middle after) : Enriched propagation before after where
  inputs := second.inputs.trans first.inputs
  outputs := second.outputs.trans first.outputs
  shapes := second.shapes.trans first.shapes
  consumers := second.consumers.trans first.consumers
  nodes := fun id => (second.nodes id).trans (first.nodes id)
  kept := fun tensor known => second.kept tensor (first.kept tensor known)
  known := by
    intro tensor value known
    rcases second.known tensor value known with earlier | learned
    · exact first.known tensor value earlier
    · exact .inr learned
  distinct := fun distinct => second.distinct (first.distinct distinct)

theorem live (enriched : Enriched propagation before after) {node : Node}
    (member : node ∈ after.live) : ∃ old ∈ before.live, node.bare = old.bare := by
  obtain ⟨id, found⟩ := mem_live_iff.mp member
  have view := enriched.nodes id
  rw [found, Option.map_some, eq_comm, Option.map_eq_some_iff] at view
  obtain ⟨old, present, same⟩ := view
  exact ⟨old, mem_live_iff.mpr ⟨id, present⟩, same.symm⟩

theorem of_live (enriched : Enriched propagation before after) {node : Node}
    (member : node ∈ before.live) : ∃ next ∈ after.live, next.bare = node.bare := by
  obtain ⟨id, found⟩ := mem_live_iff.mp member
  have view := enriched.nodes id
  rw [found, Option.map_some, Option.map_eq_some_iff] at view
  obtain ⟨next, present, same⟩ := view
  exact ⟨next, mem_live_iff.mpr ⟨id, present⟩, same⟩

theorem uses (enriched : Enriched propagation before after) {tensor : String}
    (used : after.Uses tensor) : before.Uses tensor := by
  rcases used with declared | ⟨node, member, read⟩
  · rw [isOutput, enriched.outputs] at declared
    exact .inl declared
  · obtain ⟨old, present, same⟩ := enriched.live member
    exact .inr ⟨old, present, Node.congr_strip same Node.reads (fun _ => rfl) ▸ read⟩

end Enriched

theorem Enriched.coherent {before after : Graph} (enriched : Enriched propagation before after)
    (coherent : before.Coherent) : after.Coherent := by
  refine ⟨?_, ?_, ?_⟩
  · intro id node found
    have view := enriched.nodes id
    rw [found, Option.map_some, eq_comm, Option.map_eq_some_iff] at view
    obtain ⟨old, present, same⟩ := view
    exact (Node.congr_strip same Node.id fun _ => rfl).symm.trans (coherent.placed id old present)
  · intro node member tensor read
    obtain ⟨old, present, same⟩ := enriched.live member
    rw [Node.congr_strip same Node.reads fun _ => rfl] at read
    rw [enriched.consumers, Node.congr_strip same Node.id fun _ => rfl]
    exact coherent.readers old present tensor read
  · intro parent parentMember child childMember tensor written read
    obtain ⟨oldParent, parentPresent, parentSame⟩ := enriched.live parentMember
    obtain ⟨oldChild, childPresent, childSame⟩ := enriched.live childMember
    rw [Node.congr_strip parentSame Node.writes fun _ => rfl] at written
    rw [Node.congr_strip childSame Node.reads fun _ => rfl] at read
    rw [Node.congr_strip parentSame Node.children fun _ => rfl,
      Node.congr_strip childSame Node.id fun _ => rfl]
    exact coherent.children oldParent parentPresent oldChild childPresent tensor written read

theorem Shrinks.inStep {before after : Graph} (shrinks : Shrinks before after)
    (inStep : before.InStep) : after.InStep := by
  refine ⟨?_, ?_, ?_⟩
  · intro node member tensor value attached
    obtain ⟨old, present, alike⟩ := shrinks.live member
    rw [shrinks.constants]
    exact inStep.shares old present tensor value (alike.constants ▸ attached)
  · intro node member tensor value attached present
    obtain ⟨old, oldMember, alike⟩ := shrinks.live member
    have listed := inStep.listed old oldMember tensor value (alike.constants ▸ attached) present
    exact shrinks.listed node member tensor (alike.id ▸ listed)
  · have fewer := shrinks.fewer ""
    rw [inStep.absent] at fewer
    exact List.subset_nil.mp fewer

theorem Shrinks.keysDistinct {before after : Graph} (shrinks : Shrinks before after)
    (distinct : before.KeysDistinct) : after.KeysDistinct := by
  intro node member
  obtain ⟨old, present, alike⟩ := shrinks.live member
  rw [alike.constants]
  exact distinct old present

theorem Built.inStep {spec : GraphSpec} {graph : Graph} (built : Built spec graph) :
    graph.InStep where
  shares := fun node member tensor value attached =>
    (built.attached node member tensor value attached).1
  listed := fun node member tensor value attached present =>
    built.readers node member tensor (List.mem_filter.mpr
      ⟨(built.attached node member tensor value attached).2, decide_eq_true present⟩)
  absent := built.absent

/-! ## One tensor -/

private theorem any_live_consumers (graph : Graph) (placed : graph.Placed) (tensor : String) :
    (((graph.consumersOf tensor).map Node.id).any fun id => (graph.node? id).isSome) =
      !(graph.consumersOf tensor).isEmpty := by
  have live : ∀ node ∈ graph.consumersOf tensor, (graph.node? node.id).isSome = true := by
    intro node member
    obtain ⟨id, -, found⟩ := List.mem_filterMap.mp member
    rw [placed id node found, found, Option.isSome_some]
  cases consumers : graph.consumersOf tensor with
  | nil => rfl
  | cons first rest =>
    rw [consumers] at live
    simp [live first (List.mem_cons_self ..)]

/-- The constants after attaching a value: the tensor has it if anything is listed as a reader. -/
theorem get?_attachToConsumers {graph : Graph} (placed : graph.Placed) (tensor other : String)
    (value : Tensor) :
    (graph.attachToConsumers tensor value).constants.get? other =
      if other = tensor ∧ graph.consumersOf tensor ≠ [] then some value
      else graph.constants.get? other := by
  obtain ⟨nodes, same⟩ := pinAll_eq ((graph.consumersOf tensor).map Node.id) graph tensor value
  rw [attachToConsumers_eq, same, any_live_consumers graph placed]
  cases graph.consumersOf tensor with
  | nil => simp
  | cons first rest => simp

/-- Attaching a value changes no index. -/
theorem consumers_attachToConsumers (graph : Graph) (tensor : String) (value : Tensor) :
    (graph.attachToConsumers tensor value).consumers = graph.consumers := by
  obtain ⟨nodes, same⟩ := pinAll_eq ((graph.consumersOf tensor).map Node.id) graph tensor value
  rw [attachToConsumers_eq, same]

theorem nodup_constants_attachToConsumers (graph : Graph) (tensor : String) (value : Tensor)
    (distinct : graph.constants.keys.Nodup) :
    (graph.attachToConsumers tensor value).constants.keys.Nodup := by
  obtain ⟨nodes, same⟩ := pinAll_eq ((graph.consumersOf tensor).map Node.id) graph tensor value
  rw [attachToConsumers_eq, same]
  dsimp only
  split
  · exact Dict.nodup_keys_insert graph.constants _ _ distinct
  · exact distinct

/-- A live node has got the value, as one of the listed readers, or is none of the readers. -/
theorem mem_live_attachToConsumers {graph : Graph} (placed : graph.Placed)
    {tensor : String} {value : Tensor} {node : Node}
    (member : node ∈ (graph.attachToConsumers tensor value).live) :
    ∃ old ∈ graph.live, (node = old ∧ old ∉ graph.consumersOf tensor) ∨
      (node = old.attach tensor value ∧ old.id ∈ (graph.consumers.get? tensor).getD [] ∧
        graph.consumersOf tensor ≠ []) := by
  obtain ⟨id, position⟩ := mem_live_iff.mp member
  rw [attachToConsumers_eq, node?_pinAll] at position
  split at position
  · next listed =>
    obtain ⟨consumer, consumerMember, sameId⟩ := List.mem_map.mp listed
    obtain ⟨old, found, rfl⟩ := Option.map_eq_some_iff.mp position
    obtain ⟨key, keyListed, keyFound⟩ := List.mem_filterMap.mp consumerMember
    have oldId : old.id = key :=
      (placed id old found).trans (sameId.symm.trans (placed key consumer keyFound))
    exact ⟨old, mem_live_iff.mpr ⟨id, found⟩,
      .inr ⟨rfl, oldId ▸ keyListed, List.ne_nil_of_mem consumerMember⟩⟩
  · next unlisted =>
    refine ⟨node, mem_live_iff.mpr ⟨id, position⟩, .inl ⟨rfl, fun consumer => unlisted ?_⟩⟩
    exact placed id node position ▸ List.mem_map_of_mem consumer

theorem Enriched.of_attachToConsumers {graph : Graph} (placed : graph.Placed) {tensor : String}
    {value : Tensor} (known : (propagation.state tensor).value? = some value) :
    Enriched propagation graph (graph.attachToConsumers tensor value) := by
  obtain ⟨nodes, same⟩ := pinAll_eq ((graph.consumersOf tensor).map Node.id) graph tensor value
  rw [← attachToConsumers_eq] at same
  refine ⟨by rw [same], by rw [same], by rw [same], by rw [same], ?_, ?_, ?_, ?_⟩
  · intro id
    rw [attachToConsumers_eq, node?_pinAll]
    split
    · rw [Option.map_map]
      rfl
    · rfl
  · intro other present
    obtain ⟨old, found⟩ := isConstant_iff.mp present
    rw [isConstant_iff, get?_attachToConsumers placed]
    split
    · exact ⟨value, rfl⟩
    · exact ⟨old, found⟩
  · intro other found present
    rw [get?_attachToConsumers placed] at present
    split at present
    · next here => exact .inr (here.1 ▸ present ▸ known)
    · exact .inl present
  · intro distinct node member
    obtain ⟨old, present, ⟨rfl, -⟩ | ⟨rfl, -⟩⟩ := mem_live_attachToConsumers placed member
    · exact distinct node present
    · exact Dict.nodup_keys_insert old.constants _ _ (distinct old present)

/-- All listed readers of a tensor learn its value, so that nodes and graph stay in step. -/
theorem InStep.attachToConsumers {graph : Graph} (placed : graph.Placed) (inStep : graph.InStep)
    (tensor : String) (value : Tensor) : (graph.attachToConsumers tensor value).InStep := by
  have consumers := consumers_attachToConsumers graph tensor value
  refine ⟨?_, ?_, consumers ▸ inStep.absent⟩
  · intro node member other found attached
    rw [get?_attachToConsumers placed]
    obtain ⟨old, present, ⟨rfl, unlisted⟩ | ⟨rfl, -, inhabited⟩⟩ :=
      mem_live_attachToConsumers placed member
    · rw [if_neg]
      · exact inStep.shares node present other found attached
      · -- A node that holds the tensor is one of its readers, so it is not passed over.
        rintro ⟨rfl, inhabited⟩
        by_cases absent : other = ""
        · refine inhabited ?_
          rw [consumersOf, absent, inStep.absent]
          rfl
        · have listed := inStep.listed node present other found attached absent
          exact unlisted (List.mem_filterMap.mpr ⟨node.id, listed, placed.node?_of_mem present⟩)
    · rw [Node.attach, Dict.get?_insert] at attached
      split at attached
      · next here => rw [if_pos ⟨here, inhabited⟩, attached]
      · next elsewhere =>
        rw [if_neg fun both => elsewhere both.1]
        exact inStep.shares old present other found attached
  · intro node member other found attached named
    rw [consumers]
    obtain ⟨old, present, ⟨rfl, -⟩ | ⟨rfl, listed, -⟩⟩ := mem_live_attachToConsumers placed member
    · exact inStep.listed node present other found attached named
    · rw [Node.attach, Dict.get?_insert] at attached
      split at attached
      · next here => exact here ▸ listed
      · exact inStep.listed old present other found attached named

theorem SharesNames.attachToConsumers {graph : Graph} (placed : graph.Placed)
    (shares : graph.SharesNames) (tensor : String) (value : Tensor) :
    (graph.attachToConsumers tensor value).SharesNames := by
  intro node member other attached
  rw [isConstant_iff, get?_attachToConsumers placed]
  obtain ⟨old, present, ⟨rfl, -⟩ | ⟨rfl, -, inhabited⟩⟩ := mem_live_attachToConsumers placed member
  · split
    · exact ⟨value, rfl⟩
    · exact isConstant_iff.mp (shares node present other attached)
  · by_cases here : other = tensor
    · exact ⟨value, if_pos ⟨here, inhabited⟩⟩
    · rw [Node.hasConstant, Node.attach, Dict.contains, Dict.get?_insert, if_neg here] at attached
      rw [if_neg fun both => here both.1]
      exact isConstant_iff.mp (shares old present other attached)

/-! ## All outputs of a node -/

/-- Attaching known outputs adds constants only and keeps what attaching one of them keeps.
Afterwards every known output that a live node reads is constant. -/
theorem attachOutputs_invariant (propagation : Propagation) (good : Graph → Prop) {node : Node}
    {graph : Graph}
    (attach : ∀ graph : Graph, graph.Coherent → ∀ tensor ∈ node.outputs, ∀ value, good graph →
      good (graph.attachToConsumers tensor value))
    (coherent : graph.Coherent) (start : good graph) :
    Enriched propagation graph (graph.attachOutputs propagation node) ∧
      good (graph.attachOutputs propagation node) ∧
      ∀ tensor ∈ node.outputs, (propagation.state tensor).isExact = true →
        (∃ reader ∈ graph.live, tensor ∈ reader.reads) →
          (graph.attachOutputs propagation node).isConstant tensor = true := by
  rw [attachOutputs]
  generalize node.outputs = outputs at attach ⊢
  induction outputs generalizing graph with
  | nil => exact ⟨.refl _ _, start, by simp⟩
  | cons first rest ih =>
    have others := fun graph coherent tensor member =>
      attach graph coherent tensor (List.mem_cons_of_mem first member)
    rw [List.foldl_cons]
    cases known : (propagation.state first).value? with
    | none =>
      obtain ⟨enriched, kept, constant⟩ := ih coherent start others
      refine ⟨enriched, kept, List.forall_mem_cons.mpr ⟨fun exact => ?_, constant⟩⟩
      rw [Knowledge.isExact, known] at exact
      cases exact
    | some value =>
      have one := Enriched.of_attachToConsumers coherent.placed known
      obtain ⟨enriched, kept, constant⟩ := ih (one.coherent coherent)
        (attach graph coherent first (List.mem_cons_self ..) value start) others
      refine ⟨one.trans enriched, kept, List.forall_mem_cons.mpr ⟨?_, ?_⟩⟩
      · rintro - ⟨reader, member, read⟩
        have consumer := coherent.readers.mem_consumersOf coherent.placed member read
        refine enriched.kept first (isConstant_iff.mpr ⟨value, ?_⟩)
        rw [get?_attachToConsumers coherent.placed, if_pos ⟨rfl, List.ne_nil_of_mem consumer⟩]
      · rintro tensor listed exact ⟨reader, member, read⟩
        obtain ⟨next, nextMember, same⟩ := one.of_live member
        exact constant tensor listed exact
          ⟨next, nextMember, Node.congr_strip same Node.reads (fun _ => rfl) ▸ read⟩

theorem Enriched.of_attachOutputs (propagation : Propagation) {graph : Graph}
    (coherent : graph.Coherent) (node : Node) :
    Enriched propagation graph (graph.attachOutputs propagation node) :=
  (attachOutputs_invariant propagation (fun _ => True) (fun _ _ _ _ _ _ => trivial) coherent
    trivial).1

/-- A known output that is read is constant once it is attached. -/
theorem isConstant_of_isExact {graph : Graph} (coherent : graph.Coherent) {node : Node}
    {tensor : String} (output : tensor ∈ node.outputs)
    (exact : (propagation.state tensor).isExact = true)
    (read : ∃ reader ∈ graph.live, tensor ∈ reader.reads) :
    (graph.attachOutputs propagation node).isConstant tensor = true :=
  (attachOutputs_invariant propagation (fun _ => True) (fun _ _ _ _ _ _ => trivial) coherent
    trivial).2.2 tensor output exact read

theorem InStep.attachOutputs {graph : Graph} (inStep : graph.InStep) (coherent : graph.Coherent)
    (propagation : Propagation) (node : Node) : (graph.attachOutputs propagation node).InStep :=
  (attachOutputs_invariant propagation InStep
    (fun _ coherent tensor _ value inStep => inStep.attachToConsumers coherent.placed tensor value)
    coherent inStep).2.1

theorem SharesNames.attachOutputs {graph : Graph} (shares : graph.SharesNames)
    (coherent : graph.Coherent) (propagation : Propagation) (node : Node) :
    (graph.attachOutputs propagation node).SharesNames :=
  (attachOutputs_invariant propagation SharesNames
    (fun _ coherent tensor _ value shares => shares.attachToConsumers coherent.placed tensor value)
    coherent shares).2.1

/-- What is constant after attaching the outputs of a node is one of them or was constant. -/
theorem isConstant_attachOutputs {graph : Graph} (coherent : graph.Coherent)
    (propagation : Propagation) (node : Node) {tensor : String}
    (constant : (graph.attachOutputs propagation node).isConstant tensor = true) :
    graph.isConstant tensor = true ∨ tensor ∈ node.outputs := by
  refine (attachOutputs_invariant propagation (fun next =>
    next.isConstant tensor = true → graph.isConstant tensor = true ∨ tensor ∈ node.outputs)
    ?_ coherent .inl).2.1 constant
  intro next coherentNext output listed value earlier present
  rw [isConstant_iff, get?_attachToConsumers coherentNext.placed] at present
  split at present
  · next here => exact .inr (here.1 ▸ listed)
  · exact earlier (isConstant_iff.mpr present)

end Graph

end StaticNet
