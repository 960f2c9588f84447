import StaticNet.Proofs.Graph.Cascade
import StaticNet.Proofs.Simplification.Bypassing

/-! # Edited graphs

A graph is built from a description and then edited, in any order and with any arguments. Its
indices are at all times those that would be computed anew: removal keeps them up to date, unlinking
and rewiring compute them anew, and no other edit touches what they depend on.
-/

namespace StaticNet

/-- An edit of a graph. Nodes are given by id; a negative id stands for no node. -/
inductive Edit where
  | remove (id : Int)
  | unlink (id : Int)
  | rewire (old replacement : String)
  | renameOutput (old replacement : String)
  | pinConstant (id : Int) (tensor : String) (value : Tensor)
  | recordShape (tensor : String) (shape : Option Shape)

namespace Graph

/-- Edit a graph at a node. -/
def editAt (graph : Graph) (id : Int) (change : Nat → Graph) : Graph :=
  if id < 0 then graph else change id.toNat

/-- The graph after an edit. -/
def edit (graph : Graph) : Edit → Graph
  | .remove id => graph.editAt id fun id => (graph.remove id).graph
  | .unlink id => graph.editAt id graph.unlink
  | .rewire old replacement => graph.rewire old replacement
  | .renameOutput old replacement => graph.renameOutput old replacement
  | .pinConstant id tensor value => graph.editAt id fun id => graph.pinConstant id tensor value
  | .recordShape tensor shape => graph.recordShape tensor shape

/-- The graph after a sequence of edits. -/
def edited (graph : Graph) (edits : List Edit) : Graph := edits.foldl edit graph

/-! ## Indices computed anew are exact -/

private theorem filter_isLive_childIds {graph : Graph} (placed : graph.Placed)
    (producers : TensorIndex Nat) (parent : Nat) :
    (childIds producers graph.live parent).filter graph.isLive =
      childIds producers graph.live parent := by
  refine List.filter_eq_self.mpr fun id listed => ?_
  obtain ⟨node, member, same, -⟩ := (mem_childIds_iff _ _ _ _).mp listed
  exact (isLive_iff placed).mpr ⟨node, member, same⟩

theorem traced_reindex {graph : Graph} (placed : graph.Placed)
    (single : SingleWriters graph.live) : graph.reindex.Traced [] := by
  have view : ∀ id, graph.reindex.node? id = (graph.node? id).map fun node =>
      { node with
        parents := parentIds (producerIndex graph.live) node
        children := (childIndex (producerIndex graph.live) graph.live).getD node.id [] } :=
    fun id => node?_map graph _ id
  have frames : graph.reindex.live.map Node.frame = graph.live.map Node.frame := by
    refine map_live_congr Node.frame (List.length_map ..) fun id => ?_
    rw [view, Option.map_map]
    rfl
  have producers := producerIndex_congr frames
  have placedAnew : graph.reindex.Placed := placed_reindex placed
  -- None of these is stale: they are computed from the nodes that are there.
  have children : ∀ node ∈ graph.reindex.live, node.children =
      childIds (producerIndex graph.reindex.live) graph.reindex.live node.id := by
    intro node member
    rw [children_reindex member, producers, childIds_congr frames,
      getD_childIndex _ placed.nodup_map_id]
  refine ⟨placedAnew, ?_, ?_, ?_, ?_, ?_, ?_⟩
  · refine single.of_alike fun node member => ?_
    obtain ⟨old, present, alike⟩ := mem_live_reindex member
    exact ⟨old, present, alike.id.symm, alike.writes.symm⟩
  · intro tensor
    rw [producers]
    rfl
  · intro tensor
    rw [readerIds_congr frames]
    exact get?_consumerIndex placed.nodup_map_id tensor
  · intro node member
    obtain ⟨id, found⟩ := mem_live_iff.mp member
    rw [view] at found
    obtain ⟨old, -, rfl⟩ := Option.map_eq_some_iff.mp found
    rw [producers]
    rfl
  · intro node member
    rw [children node member, filter_isLive_childIds placedAnew]
  · intro node member child listed
    rw [children node member] at listed
    obtain ⟨other, otherMember, same, -⟩ := (mem_childIds_iff _ _ _ _).mp listed
    exact .inl ((isLive_iff placedAnew).mpr ⟨other, otherMember, same⟩)

theorem traced_of_build {spec : GraphSpec} {graph : Graph} (built : build spec = .ok graph) :
    graph.Traced [] := by
  obtain ⟨nodes, nodesBuilt, same⟩ := Outcome.bind_eq_ok_iff.mp built
  cases same
  obtain ⟨agree, -⟩ := buildNodes_spec nodesBuilt
  have single : SingleWriters ((nodes.map some).filterMap id) := by
    rw [List.filterMap_map, Function.id_comp, List.filterMap_some]
    exact ⟨agree, nodup_writes_of_buildNodes nodesBuilt⟩
  refine traced_reindex ?_ single
  intro id node found
  simp only [node?, List.getElem?_map, Option.join_eq_some_iff, Option.map_eq_some_iff,
    Option.some.injEq, exists_eq_right] at found
  exact id_of_buildNodes nodesBuilt found

/-! ## Each edit -/

theorem Traced.unlink {graph : Graph} (traced : graph.Traced []) (id : Nat) :
    (graph.unlink id).Traced [] := by
  rw [Graph.unlink]
  split
  · exact traced
  · have kept : ∀ other node,
        { graph with nodes := graph.nodes.set id none }.node? other = some node →
          graph.node? other = some node := by
      intro other node found
      rw [node?_set_none] at found
      split at found
      · cases found
      · exact found
    refine traced_reindex
      (fun other node found => traced.placed other node (kept other node found)) ?_
    refine traced.single.of_alike fun node member => ?_
    obtain ⟨other, found⟩ := mem_live_iff.mp member
    exact ⟨node, mem_live_iff.mpr ⟨other, kept other node found⟩, rfl, rfl⟩

theorem Traced.rewire {graph : Graph} (traced : graph.Traced []) (old replacement : String) :
    (graph.rewire old replacement).Traced [] := by
  have view := node?_map graph (redirect old replacement (graph.constants.get? replacement))
  refine traced_reindex ?_ (traced.single.of_alike fun node member => ?_)
  · intro id node found
    rw [view] at found
    obtain ⟨before, present, rfl⟩ := Option.map_eq_some_iff.mp found
    exact (id_redirect ..).trans (traced.placed id before present)
  · obtain ⟨id, found⟩ := mem_live_iff.mp member
    rw [view] at found
    obtain ⟨before, present, rfl⟩ := Option.map_eq_some_iff.mp found
    exact ⟨before, mem_live_iff.mpr ⟨id, present⟩, (id_redirect ..).symm, (writes_redirect ..).symm⟩

/-- Exactness hangs on the nodes without their constants and on the stored indices. -/
theorem Traced.congr {before after : Graph} (traced : before.Traced [])
    (producers : after.producers = before.producers)
    (consumers : after.consumers = before.consumers)
    (length : after.nodes.length = before.nodes.length)
    (same : ∀ id, (after.node? id).map (fun node => (node.frame, node.parents, node.children)) =
      (before.node? id).map fun node => (node.frame, node.parents, node.children)) :
    after.Traced [] := by
  refine traced.of_frames producers consumers ?_ ?_ fun id node found => ?_
  · refine map_live_congr Node.frame length fun id => ?_
    have first := congrArg (Option.map Prod.fst) (same id)
    rwa [Option.map_map, Option.map_map] at first
  · funext id
    have live := congrArg Option.isSome (same id)
    rwa [Option.isSome_map, Option.isSome_map] at live
  · have view := same id
    rw [found, Option.map_some, eq_comm, Option.map_eq_some_iff] at view
    obtain ⟨old, present, equal⟩ := view
    obtain ⟨frame, places⟩ := Prod.mk.inj equal
    obtain ⟨parents, children⟩ := Prod.mk.inj places
    exact ⟨old, present, frame.symm, parents.symm, by rw [children],
      children ▸ traced.stale old (mem_live_iff.mpr ⟨id, present⟩)⟩

theorem Traced.pinConstant {graph : Graph} (traced : graph.Traced []) (id : Nat) (tensor : String)
    (value : Tensor) : (graph.pinConstant id tensor value).Traced [] := by
  rw [Graph.pinConstant]
  split
  · exact traced
  · refine traced.congr rfl rfl (List.length_modify ..) fun other => ?_
    rw [node?_updateNode]
    split
    · rw [Option.map_map]
      rfl
    · rfl

theorem Traced.edit {graph : Graph} (traced : graph.Traced []) (change : Edit) :
    (graph.edit change).Traced [] := by
  have anywhere : ∀ (id : Int) (change : Nat → Graph), (∀ id, (change id).Traced []) →
      (graph.editAt id change).Traced [] := by
    intro id change keeps
    rw [editAt]
    split
    · exact traced
    · exact keeps _
  cases change with
  | remove id => exact anywhere id _ traced.remove
  | unlink id => exact anywhere id _ traced.unlink
  | rewire old replacement => exact traced.rewire old replacement
  | renameOutput old replacement => exact traced.congr rfl rfl rfl fun _ => rfl
  | pinConstant id tensor value => exact anywhere id _ fun id => traced.pinConstant id tensor value
  | recordShape tensor shape => exact traced.congr rfl rfl rfl fun _ => rfl

theorem Traced.edited {graph : Graph} (traced : graph.Traced []) (edits : List Edit) :
    (graph.edited edits).Traced [] := by
  induction edits generalizing graph with
  | nil => exact traced
  | cons change rest ih => exact ih (traced.edit change)

/-! ## Edited graphs -/

/-- The stored indices are those that would be computed anew: the same entries in the same order,
for every tensor and for every node. -/
structure Reindexed (graph : Graph) : Prop where
  producers : ∀ tensor, graph.producers.get? tensor = graph.reindex.producers.get? tensor
  consumers : ∀ tensor, graph.consumers.get? tensor = graph.reindex.consumers.get? tensor
  nodes : graph.nodes = graph.reindex.nodes

/-- Whatever an index mentions is a live node. -/
structure MentionsLive (graph : Graph) : Prop where
  producers : ∀ tensor id, graph.producers.get? tensor = some id → graph.isLive id = true
  consumers : ∀ tensor ids, graph.consumers.get? tensor = some ids →
    ∀ id ∈ ids, graph.isLive id = true
  parents : ∀ node ∈ graph.live, ∀ id ∈ node.parents, graph.isLive id = true
  children : ∀ node ∈ graph.live, ∀ id ∈ node.children, graph.isLive id = true

theorem Traced.children_eq {graph : Graph} (traced : graph.Traced []) {node : Node}
    (member : node ∈ graph.live) :
    node.children = childIds (producerIndex graph.live) graph.live node.id := by
  rw [← traced.children node member]
  refine (List.filter_eq_self.mpr fun child listed => ?_).symm
  rcases traced.stale node member child listed with live | pending
  · exact live
  · cases pending

theorem Traced.reindexed {graph : Graph} (traced : graph.Traced []) : graph.Reindexed where
  producers := traced.producers
  consumers := fun tensor => (traced.consumers tensor).trans
    (get?_consumerIndex traced.placed.nodup_map_id tensor).symm
  nodes := by
    refine (List.map_id' graph.nodes).symm.trans (List.map_congr_left fun slot present => ?_)
    cases slot with
    | none => rfl
    | some node =>
      have member : node ∈ graph.live := List.mem_filterMap.mpr ⟨some node, present, rfl⟩
      rw [Option.map_some, getD_childIndex _ traced.placed.nodup_map_id,
        ← traced.parents node member, ← traced.children_eq member]

theorem Traced.isLive_of_producer {graph : Graph} (traced : graph.Traced []) {tensor : String}
    {id : Nat} (found : graph.producers.get? tensor = some id) : graph.isLive id = true := by
  rw [traced.producers, get?_producerIndex_iff traced.single.agree] at found
  obtain ⟨node, member, same, -⟩ := found
  exact (isLive_iff traced.placed).mpr ⟨node, member, same⟩

theorem Traced.mentionsLive {graph : Graph} (traced : graph.Traced []) : graph.MentionsLive where
  producers := fun _ _ found => traced.isLive_of_producer found
  consumers := by
    intro tensor ids found id listed
    have same : ids = readerIds graph.live tensor := by
      rw [← getD_entry (readerIds graph.live tensor), ← traced.consumers, found, Option.getD_some]
    obtain ⟨node, member, same, -⟩ := (mem_readerIds_iff _ _ _).mp (same ▸ listed)
    exact (isLive_iff traced.placed).mpr ⟨node, member, same⟩
  parents := by
    intro node member id listed
    rw [traced.parents node member, mem_parentIds_iff] at listed
    obtain ⟨tensor, -, found⟩ := listed
    exact traced.isLive_of_producer ((traced.producers tensor).trans found)
  children := by
    intro node member id listed
    rcases traced.stale node member id listed with live | pending
    · exact live
    · cases pending

/-- However a built graph is edited, its indices are those that would be computed anew. They mention
live nodes only, and children and parents are each other's converse. -/
theorem indices_edited {spec : GraphSpec} {graph : Graph} (built : build spec = .ok graph)
    (edits : List Edit) :
    (graph.edited edits).Reindexed ∧ (graph.edited edits).MentionsLive ∧
      ∀ parent ∈ (graph.edited edits).live, ∀ child ∈ (graph.edited edits).live,
        (child.id ∈ parent.children ↔ parent.id ∈ child.parents) := by
  have traced := (traced_of_build built).edited edits
  exact ⟨traced.reindexed, traced.mentionsLive,
    fun _ parentMember _ childMember => traced.mem_children_iff parentMember childMember⟩

/-! ## A graph with cycles -/

/-- A node that feeds two others twice, a node that reads what it writes, and two nodes that read
from each other. -/
def loops : GraphSpec where
  name := "loops"
  nodes :=
    [ ⟨"split", "Split", ["x", "", "x"], ["a", "b"], .empty⟩,
      ⟨"own", "Add", ["a", "c"], ["c"], .empty⟩,
      ⟨"ahead", "Concat", ["b", "b", "d"], ["e"], .empty⟩,
      ⟨"back", "Relu", ["e"], ["d"], .empty⟩ ]
  inputs := [⟨"x", 1, some [2]⟩]
  outputs := [⟨"c", 1, some [2]⟩]
  initializers := .empty
  values := []

/-- The graph of the loops. -/
def loopsGraph : Graph := (build loops).toOption.get rfl

/-- Edits with absent nodes, unknown tensors and the absent tensor among their arguments. -/
def loopsEdits : List Edit :=
  [ .remove (-1), .pinConstant 1 "a" default, .rewire "unknown" "", .recordShape "e" none,
    .remove 3, .renameOutput "c" "a", .unlink 7, .rewire "" "c", .unlink 1 ]

/-- Removing one node of a cycle takes the other one along; a declared output keeps its producer. -/
theorem indices_edited_loops :
    (loopsGraph.edited loopsEdits).live.map Node.name = ["split"] ∧
      (loopsGraph.edited loopsEdits).Reindexed ∧ (loopsGraph.edited loopsEdits).MentionsLive ∧
        ∀ parent ∈ (loopsGraph.edited loopsEdits).live,
          ∀ child ∈ (loopsGraph.edited loopsEdits).live,
            (child.id ∈ parent.children ↔ parent.id ∈ child.parents) := by
  have built : build loops = .ok loopsGraph := rfl
  exact ⟨by decide +kernel, indices_edited built loopsEdits⟩

end Graph

end StaticNet
