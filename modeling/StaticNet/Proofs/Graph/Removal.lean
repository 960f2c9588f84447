import StaticNet.Proofs.Graph.Listing
import StaticNet.Proofs.Graph.Value
import StaticNet.Proofs.Logged

/-! # Removing nodes

Removing a node takes nodes away and nothing else. A node is dispensable when it produces no
declared output and what is read of its outputs is constant. Removing a dispensable node goes on to
nodes without children only, and these are dispensable too as long as no child is missing from the
indices.
-/

namespace StaticNet.Graph

/-- The stored ids and indices can be relied on: they miss nothing. -/
structure Coherent (graph : Graph) : Prop where
  placed : graph.Placed
  readers : graph.ReadersListed
  children : graph.ChildrenListed

theorem Built.coherent {spec : GraphSpec} {graph : Graph} (built : Built spec graph) :
    graph.Coherent := ⟨built.placed, built.readers, built.children⟩

/-- A node produces no declared output, and what is read of its outputs is constant. -/
structure Dispensable (graph : Graph) (node : Node) : Prop where
  undeclared : graph.yieldsOutput node = false
  constant : ∀ tensor ∈ node.writes, (∃ reader ∈ graph.live, tensor ∈ reader.reads) →
    graph.isConstant tensor = true

theorem Dispensable.isConstant_of_uses {graph : Graph} {node : Node}
    (dispensable : graph.Dispensable node) {tensor : String} (written : tensor ∈ node.writes)
    (used : graph.Uses tensor) : graph.isConstant tensor = true := by
  rcases used with declared | read
  · have output := (List.mem_filter.mp written).1
    exact absurd declared (List.any_eq_false.mp dispensable.undeclared tensor output)
  · exact dispensable.constant tensor written read

/-- The second graph is the first one with fewer nodes. Nothing that it uses has lost its
source, and the producers of declared outputs are still there. -/
structure Shrinks (before after : Graph) : Prop where
  inputs : after.inputs = before.inputs
  outputs : after.outputs = before.outputs
  constants : after.constants = before.constants
  shapes : after.shapes = before.shapes
  nodes : ∀ id node, after.node? id = some node → ∃ old, before.node? id = some old ∧ node.Like old
  writers : ∀ node ∈ before.live, ∀ tensor ∈ node.writes, after.Uses tensor →
    before.isConstant tensor = true ∨ ∃ other ∈ after.live, tensor ∈ other.writes
  yields : ∀ node ∈ before.live, before.yieldsOutput node = true → ∃ next ∈ after.live,
    next.Like node
  listed : ∀ node ∈ after.live, ∀ tensor, node.id ∈ (before.consumers.get? tensor).getD [] →
    node.id ∈ (after.consumers.get? tensor).getD []
  fewer : ∀ tensor, (after.consumers.get? tensor).getD [] ⊆ (before.consumers.get? tensor).getD []

namespace Shrinks

variable {before middle after : Graph}

theorem live (shrinks : Shrinks before after) {node : Node} (member : node ∈ after.live) :
    ∃ old ∈ before.live, node.Like old := by
  obtain ⟨id, found⟩ := mem_live_iff.mp member
  obtain ⟨old, present, alike⟩ := shrinks.nodes id node found
  exact ⟨old, mem_live_iff.mpr ⟨id, present⟩, alike⟩

theorem uses (shrinks : Shrinks before after) {tensor : String} (used : after.Uses tensor) :
    before.Uses tensor := by
  rcases used with declared | ⟨node, member, read⟩
  · rw [isOutput, shrinks.outputs] at declared
    exact .inl declared
  · obtain ⟨old, present, alike⟩ := shrinks.live member
    exact .inr ⟨old, present, alike.reads ▸ read⟩

theorem refl (graph : Graph) : Shrinks graph graph where
  inputs := rfl
  outputs := rfl
  constants := rfl
  shapes := rfl
  nodes := fun _ node found => ⟨node, found, .refl node⟩
  writers := fun node member _ written _ => .inr ⟨node, member, written⟩
  yields := fun node member _ => ⟨node, member, .refl node⟩
  listed := fun _ _ _ listed => listed
  fewer := fun _ => List.Subset.refl _

theorem trans (first : Shrinks before middle) (second : Shrinks middle after) :
    Shrinks before after where
  inputs := second.inputs.trans first.inputs
  outputs := second.outputs.trans first.outputs
  constants := second.constants.trans first.constants
  shapes := second.shapes.trans first.shapes
  nodes := by
    intro id node found
    obtain ⟨between, present, alike⟩ := second.nodes id node found
    obtain ⟨old, origin, same⟩ := first.nodes id between present
    exact ⟨old, origin, alike.trans same⟩
  writers := by
    intro node member tensor written used
    rcases first.writers node member tensor written (second.uses used) with
      known | ⟨other, kept, wrote⟩
    · exact .inl known
    · rcases second.writers other kept tensor wrote used with known | remaining
      · rw [isConstant, first.constants] at known
        exact .inl known
      · exact .inr remaining
  yields := by
    intro node member yields
    obtain ⟨between, kept, alike⟩ := first.yields node member yields
    have declared : middle.isOutput = before.isOutput := by
      funext tensor
      rw [isOutput, isOutput, first.outputs]
    have stays : middle.yieldsOutput between = true := by
      rw [yieldsOutput, declared, alike.outputs]
      exact yields
    obtain ⟨next, last, same⟩ := second.yields between kept stays
    exact ⟨next, last, same.trans alike⟩
  listed := by
    intro node member tensor listed
    obtain ⟨old, present, alike⟩ := second.live member
    have between := first.listed old present tensor (alike.id ▸ listed)
    exact second.listed node member tensor (alike.id ▸ between)
  fewer := fun tensor => List.Subset.trans (second.fewer tensor) (first.fewer tensor)

theorem node?_eq_none (shrinks : Shrinks before after) {id : Nat}
    (absent : before.node? id = none) : after.node? id = none := by
  cases found : after.node? id with
  | none => rfl
  | some node =>
    obtain ⟨old, present, -⟩ := shrinks.nodes id node found
    rw [absent] at present
    cases present

end Shrinks

/-! ## Single edits -/

/-- Updates that keep a view of every node are invisible in that view. -/
private theorem map_node?_foldl_updateNode {α : Type} (view : Node → α) (change : Node → Node)
    (keeps : ∀ node, view (change node) = view node) (ids : List Nat) (graph : Graph) (id : Nat) :
    ((ids.foldl (fun graph target => graph.updateNode target change) graph).node? id).map view =
      (graph.node? id).map view := by
  induction ids generalizing graph with
  | nil => rfl
  | cons target rest ih =>
    rw [List.foldl_cons, ih, node?_updateNode]
    split
    · simp only [Option.map_map, Function.comp_def, keeps]
    · rfl

theorem foldl_updateNode_eq (change : Node → Node) (ids : List Nat) (graph : Graph) :
    ∃ nodes, ids.foldl (fun graph target => graph.updateNode target change) graph =
      { graph with nodes } := by
  induction ids generalizing graph with
  | nil => exact ⟨graph.nodes, rfl⟩
  | cons target rest ih =>
    obtain ⟨nodes, same⟩ := ih (graph.updateNode target change)
    exact ⟨nodes, same⟩

/-- A detached node is gone, and the others keep all but their parents. -/
theorem node?_detach (graph : Graph) (node : Node) (id : Nat) :
    ((graph.detach node).node? id).map (fun other => (other.core, other.children)) =
      if id = node.id then none
      else (graph.node? id).map fun other => (other.core, other.children) := by
  rw [detach, map_node?_foldl_updateNode (fun other => (other.core, other.children))
    (fun other => { other with parents := other.parents.filter (· ≠ node.id) }) fun _ => rfl]
  have emptied := node?_set_none graph node.id id
  simp only [node?] at emptied ⊢
  rw [emptied]
  split <;> rfl

theorem node?_detach_eq_none_iff {graph : Graph} {node : Node} {id : Nat} :
    (graph.detach node).node? id = none ↔ id = node.id ∨ graph.node? id = none := by
  have view := congrArg Option.isNone (node?_detach graph node id)
  rw [Option.isNone_map] at view
  by_cases itself : id = node.id
  · rw [if_pos itself] at view
    exact iff_of_true (Option.isNone_iff_eq_none.mp view) (.inl itself)
  · rw [if_neg itself, Option.isNone_map] at view
    rw [or_iff_right itself, ← Option.isNone_iff_eq_none, view, Option.isNone_iff_eq_none]

theorem detach_eq (graph : Graph) (node : Node) :
    ∃ nodes, graph.detach node = { graph with
      nodes
      producers := node.outputs.foldl (dropProducer node.id) graph.producers
      consumers := node.inputs.foldl (dropConsumer node.id) graph.consumers } := by
  obtain ⟨nodes, same⟩ := foldl_updateNode_eq (fun other =>
    { other with parents := other.parents.filter (· ≠ node.id) }) node.children
    { graph with
      nodes := graph.nodes.set node.id none
      producers := node.outputs.foldl (dropProducer node.id) graph.producers
      consumers := node.inputs.foldl (dropConsumer node.id) graph.consumers }
  exact ⟨nodes, same⟩

theorem node?_of_detach {graph : Graph} {node other : Node} {id : Nat}
    (found : (graph.detach node).node? id = some other) :
    id ≠ node.id ∧
      ∃ old, graph.node? id = some old ∧ other.Like old ∧ other.children = old.children := by
  have view := node?_detach graph node id
  rw [found, Option.map_some] at view
  split at view
  · cases view
  · next different =>
    obtain ⟨old, present, same⟩ := Option.map_eq_some_iff.mp view.symm
    obtain ⟨core, children⟩ := Prod.mk.inj same
    exact ⟨different, old, present, core.symm, children.symm⟩

private theorem mem_live_detach {graph : Graph} {node other : Node}
    (member : other ∈ (graph.detach node).live) :
    ∃ old ∈ graph.live, other.Like old ∧ other.children = old.children := by
  obtain ⟨id, found⟩ := mem_live_iff.mp member
  obtain ⟨-, old, present, alike, children⟩ := node?_of_detach found
  exact ⟨old, mem_live_iff.mpr ⟨id, present⟩, alike, children⟩

private theorem listed_detach {graph : Graph} (placed : graph.Placed) {node other : Node}
    (member : other ∈ (graph.detach node).live) (tensor : String)
    (listed : other.id ∈ (graph.consumers.get? tensor).getD []) :
    other.id ∈ ((graph.detach node).consumers.get? tensor).getD [] := by
  obtain ⟨id, found⟩ := mem_live_iff.mp member
  obtain ⟨different, old, present, alike, -⟩ := node?_of_detach found
  have sameId : other.id = id := alike.id.trans (placed id old present)
  obtain ⟨nodes, same⟩ := detach_eq graph node
  rw [same, getD_foldl_dropConsumer]
  split
  · exact (mem_without_iff _ _ _).mpr ⟨listed, sameId ▸ different⟩
  · exact listed

theorem Coherent.detach {graph : Graph} (coherent : graph.Coherent) (node : Node) :
    (graph.detach node).Coherent := by
  have placed : (graph.detach node).Placed := by
    intro id other found
    obtain ⟨-, old, present, alike, -⟩ := node?_of_detach found
    exact alike.id.trans (coherent.placed id old present)
  refine ⟨placed, ?_, ?_⟩
  · intro other member tensor read
    obtain ⟨old, present, alike, -⟩ := mem_live_detach member
    have listed := coherent.readers old present tensor (alike.reads ▸ read)
    exact listed_detach coherent.placed member tensor (alike.id ▸ listed)
  · intro parent parentMember child childMember tensor written read
    obtain ⟨oldParent, oldParentMember, parentLike, children⟩ := mem_live_detach parentMember
    obtain ⟨oldChild, oldChildMember, childLike, -⟩ := mem_live_detach childMember
    rw [children, childLike.id]
    exact coherent.children oldParent oldParentMember oldChild oldChildMember tensor
      (parentLike.writes ▸ written) (childLike.reads ▸ read)

theorem Shrinks.detach {graph : Graph} {id : Nat} {node : Node} (placed : graph.Placed)
    (found : graph.node? id = some node) (dispensable : graph.Dispensable node) :
    Shrinks graph (graph.detach node) := by
  obtain ⟨nodes, same⟩ := detach_eq graph node
  have kept : ∀ id other, (graph.detach node).node? id = some other →
      ∃ old, graph.node? id = some old ∧ other.Like old := by
    intro id other present
    obtain ⟨-, old, origin, alike, -⟩ := node?_of_detach present
    exact ⟨old, origin, alike⟩
  have usedBefore : ∀ tensor, (graph.detach node).Uses tensor → graph.Uses tensor := by
    rintro tensor (declared | ⟨reader, member, read⟩)
    · rw [same] at declared
      exact .inl declared
    · obtain ⟨old, present, alike, -⟩ := mem_live_detach member
      exact .inr ⟨old, present, alike.reads ▸ read⟩
  have stays : ∀ other ∈ graph.live, other = node ∨
      ∃ next ∈ (graph.detach node).live, next.Like other := by
    intro other member
    by_cases gone : other.id = node.id
    · exact .inl (placed.eq_of_id member (mem_live_iff.mpr ⟨id, found⟩) gone)
    · have view := node?_detach graph node other.id
      rw [if_neg gone, placed.node?_of_mem member, Option.map_some] at view
      obtain ⟨next, present, equal⟩ := Option.map_eq_some_iff.mp view
      exact .inr ⟨next, mem_live_iff.mpr ⟨_, present⟩, (Prod.mk.inj equal).1⟩
  refine ⟨by rw [same], by rw [same], by rw [same], by rw [same], kept, ?_, ?_,
    fun other member tensor listed => listed_detach placed member tensor listed, ?_⟩
  · intro writer member tensor written used
    rcases stays writer member with rfl | ⟨next, present, alike⟩
    · exact .inl (dispensable.isConstant_of_uses written (usedBefore tensor used))
    · exact .inr ⟨next, present, alike.writes ▸ written⟩
  · intro writer member yields
    rcases stays writer member with rfl | remains
    · rw [dispensable.undeclared] at yields
      cases yields
    · exact remains
  · intro tensor
    rw [same, getD_foldl_dropConsumer]
    split
    · exact List.filter_sublist.subset
    · exact List.Subset.refl _

/-- Dropping a child changes the children of one node, from which it takes no other child. -/
private theorem mem_live_dropChild {graph : Graph} {parent child : Nat} {node : Node}
    (member : node ∈ (graph.dropChild parent child).live) :
    ∃ old ∈ graph.live, node.Like old ∧ ∀ other ≠ child, other ∈ old.children →
      other ∈ node.children := by
  obtain ⟨id, found⟩ := mem_live_iff.mp member
  rw [node?_dropChild] at found
  split at found
  · obtain ⟨old, present, rfl⟩ := Option.map_eq_some_iff.mp found
    refine ⟨old, mem_live_iff.mpr ⟨id, present⟩, rfl, fun other different listed => ?_⟩
    exact List.mem_filter.mpr ⟨listed, decide_eq_true different⟩
  · exact ⟨node, mem_live_iff.mpr ⟨id, found⟩, .refl node, fun _ _ listed => listed⟩

private theorem map_core_dropChild (graph : Graph) (parent child id : Nat) :
    ((graph.dropChild parent child).node? id).map Node.core = (graph.node? id).map Node.core :=
  map_node?_foldl_updateNode Node.core
    (fun node => { node with children := node.children.filter (· ≠ child) })
    (fun _ => rfl) [parent] graph id

theorem Shrinks.dropChild (graph : Graph) (parent child : Nat) :
    Shrinks graph (graph.dropChild parent child) where
  inputs := rfl
  outputs := rfl
  constants := rfl
  shapes := rfl
  nodes := by
    intro id node found
    have view := map_core_dropChild graph parent child id
    rw [found, Option.map_some, eq_comm, Option.map_eq_some_iff] at view
    obtain ⟨old, present, same⟩ := view
    exact ⟨old, present, same.symm⟩
  writers := by
    intro node member tensor written _
    obtain ⟨id, found⟩ := mem_live_iff.mp member
    have view := map_core_dropChild graph parent child id
    rw [found, Option.map_some, Option.map_eq_some_iff] at view
    obtain ⟨other, present, same⟩ := view
    have alike : other.Like node := same
    exact .inr ⟨other, mem_live_iff.mpr ⟨id, present⟩, alike.writes ▸ written⟩
  yields := by
    intro node member _
    obtain ⟨id, found⟩ := mem_live_iff.mp member
    have view := map_core_dropChild graph parent child id
    rw [found, Option.map_some, Option.map_eq_some_iff] at view
    obtain ⟨other, present, same⟩ := view
    exact ⟨other, mem_live_iff.mpr ⟨id, present⟩, same⟩
  listed := fun _ _ _ listed => listed
  fewer := fun _ => List.Subset.refl _

theorem Coherent.dropChild {graph : Graph} (coherent : graph.Coherent) (parent : Nat) {child : Nat}
    (gone : graph.node? child = none) : (graph.dropChild parent child).Coherent := by
  refine ⟨?_, ?_, ?_⟩
  · intro id node found
    obtain ⟨old, present, alike⟩ := (Shrinks.dropChild graph parent child).nodes id node found
    exact alike.id.trans (coherent.placed id old present)
  · intro node member tensor read
    obtain ⟨old, present, alike, -⟩ := mem_live_dropChild member
    rw [alike.id]
    exact coherent.readers old present tensor (alike.reads ▸ read)
  · intro node member reader readerMember tensor written read
    obtain ⟨old, present, alike, kept⟩ := mem_live_dropChild member
    obtain ⟨oldReader, readerPresent, readerLike, -⟩ := mem_live_dropChild readerMember
    have different : oldReader.id ≠ child := by
      rintro rfl
      rw [coherent.placed.node?_of_mem readerPresent] at gone
      cases gone
    rw [readerLike.id]
    exact kept _ different (coherent.children old present oldReader readerPresent tensor
      (alike.writes ▸ written) (readerLike.reads ▸ read))

/-! ## The cascade -/

/-- A node without children that produces no declared output is dispensable. -/
theorem Coherent.dispensable_of_isDeadEnd {graph : Graph} (coherent : graph.Coherent) {id : Nat}
    {node : Node} (found : graph.node? id = some node) (dead : graph.isDeadEnd id = true) :
    graph.Dispensable node := by
  simp only [isDeadEnd, found, Bool.and_eq_true, List.isEmpty_iff, Bool.not_eq_true'] at dead
  obtain ⟨childless, undeclared⟩ := dead
  refine ⟨undeclared, ?_⟩
  rintro tensor written ⟨reader, member, read⟩
  have listed := coherent.children node (mem_live_iff.mpr ⟨id, found⟩) reader member tensor
    written read
  rw [childless] at listed
  cases listed

/-- A node is gone, and nothing that is used has lost its source. -/
structure Removed (before : Graph) (id : Nat) (after : Graph) : Prop where
  shrinks : Shrinks before after
  coherent : after.Coherent
  gone : after.node? id = none

theorem Removed.of_detach {graph : Graph} (coherent : graph.Coherent) {node : Node}
    (found : graph.node? node.id = some node) (dispensable : graph.Dispensable node) :
    Removed graph node.id (graph.detach node) where
  shrinks := .detach coherent.placed found dispensable
  coherent := coherent.detach node
  gone := node?_detach_eq_none_iff.mpr (.inl rfl)

/-- Since the node is gone, no child list needs it. -/
theorem Removed.dropChild {before after : Graph} {id : Nat} (removed : Removed before id after)
    (parent : Nat) : Removed before id (after.dropChild parent id) where
  shrinks := removed.shrinks.trans (.dropChild after parent id)
  coherent := removed.coherent.dropChild parent removed.gone
  gone := (Shrinks.dropChild after parent id).node?_eq_none removed.gone

/-- Removing a dispensable node and, parent by parent, what is then dead takes nodes away only. -/
theorem removeWithin_spec (fuel : Nat) {state : Removal} {id : Nat}
    (coherent : state.graph.Coherent)
    (dispensable : ∀ node, state.graph.node? id = some node → state.graph.Dispensable node) :
    Shrinks state.graph (removeWithin fuel state id).graph ∧
      (removeWithin fuel state id).graph.Coherent ∧
      (0 < fuel → (removeWithin fuel state id).graph.node? id = none) := by
  induction fuel generalizing state id with
  | zero => exact ⟨.refl _, coherent, fun none => absurd none (Nat.lt_irrefl 0)⟩
  | succ fuel ih =>
    rw [removeWithin]
    split
    · next absent => exact ⟨.refl _, coherent, fun _ => absent⟩
    · next node found =>
      obtain rfl : node.id = id := coherent.placed id node found
      suffices final : Removed state.graph node.id _ from
        ⟨final.shrinks, final.coherent, fun _ => final.gone⟩
      -- The node stays removed while its parents are visited in turn.
      refine List.foldlRecOn (motive := fun next : Removal =>
        Removed state.graph node.id next.graph) node.parents _
        (.of_detach coherent found (dispensable node found)) ?_
      intro next removed parent _
      have dropped := removed.dropChild parent
      dsimp only
      split
      · next dead =>
        obtain ⟨further, coherentFurther, -⟩ := @ih ⟨next.graph.dropChild parent node.id, next.removed⟩
          parent dropped.coherent fun other present =>
            dropped.coherent.dispensable_of_isDeadEnd present dead
        exact ⟨dropped.shrinks.trans further, coherentFurther, further.node?_eq_none dropped.gone⟩
      · exact dropped

/-- There is always enough fuel to remove the node itself. -/
theorem removed_remove {graph : Graph} (coherent : graph.Coherent) {node : Node}
    (found : graph.node? node.id = some node) (dispensable : graph.Dispensable node) :
    Removed graph node.id (graph.remove node.id).graph := by
  have start : Coherent (Removal.mk graph []).graph := coherent
  have inhabited : 0 < graph.size :=
    List.length_pos_of_mem (mem_live_iff.mpr ⟨node.id, found⟩)
  obtain ⟨shrinks, after, gone⟩ := removeWithin_spec graph.size start fun other present => by
    rw [show (Removal.mk graph []).graph = graph from rfl, found] at present
    exact Option.some.inj present ▸ dispensable
  exact ⟨shrinks, after, gone inhabited⟩

/-- What detaching a node and dropping a child keep, every removal keeps. -/
theorem removeWithin_invariant {good : Graph → Prop}
    (detach : ∀ graph node, good graph → good (graph.detach node))
    (dropChild : ∀ graph parent child, good graph → good (graph.dropChild parent child))
    (fuel : Nat) {state : Removal} (id : Nat) (start : good state.graph) :
    good (removeWithin fuel state id).graph := by
  induction fuel generalizing state id with
  | zero => exact start
  | succ fuel ih =>
    rw [removeWithin]
    split
    · exact start
    · next node found =>
      refine List.foldlRecOn (motive := fun next : Removal => good next.graph) node.parents _
        (detach state.graph node start) ?_
      intro next kept parent _
      have dropped := dropChild next.graph parent id kept
      dsimp only
      split
      · exact @ih ⟨next.graph.dropChild parent id, next.removed⟩ parent dropped
      · exact dropped

theorem removeLogged_yields {graph after : Graph} {id : Nat}
    (yields : (graph.removeLogged id).Yields after) : after = (graph.remove id).graph := by
  obtain ⟨_, -, rest⟩ := Logged.Yields.of_bind yields
  exact Logged.Yields.of_pure rest

end StaticNet.Graph
