import StaticNet.Proofs.Graph.Exact

/-! # Removal keeps the indices exact

A node that is removed is taken out of the indices at once, but its parents learn of it one by one,
and each of them may be removed in turn. The entries that are yet to be dropped are pairs of a
parent and a child that is gone. Every removal settles the pairs that it adds, so that none is left
at the end.
-/

namespace StaticNet.Graph

/-! ## Taking a node out -/

private theorem node?_foldl_updateNode {change : Node → Node}
    (twice : ∀ node, change (change node) = change node) (ids : List Nat) (graph : Graph)
    (id : Nat) :
    (ids.foldl (fun graph target => graph.updateNode target change) graph).node? id =
      if id ∈ ids then (graph.node? id).map change else graph.node? id := by
  induction ids generalizing graph with
  | nil => rfl
  | cons first rest ih =>
    rw [List.foldl_cons, ih, node?_updateNode]
    by_cases same : id = first
    · simp only [same, if_true, List.mem_cons, true_or, Option.map_map, Function.comp_def, twice,
        ite_self]
    · simp only [same, if_false, List.mem_cons, false_or]

private theorem length_nodes_foldl_updateNode (change : Node → Node) (ids : List Nat)
    (graph : Graph) :
    (ids.foldl (fun graph target => graph.updateNode target change) graph).nodes.length =
      graph.nodes.length := by
  induction ids generalizing graph with
  | nil => rfl
  | cons first rest ih => rw [List.foldl_cons, ih, updateNode, List.length_modify]

/-- A node that no longer counts another one among its parents. -/
def dropParent (id : Nat) (node : Node) : Node := { node with parents := without id node.parents }

section
variable {graph : Graph} {stale : List (Nat × Nat)} {node : Node} (traced : graph.Traced stale)
  (member : node ∈ graph.live)
include traced member

/-- With exact indices, the children of a node are the nodes that have it as a parent, so detaching
it takes it out of all parent lists. -/
private theorem Traced.node?_detach_eq (id : Nat) :
    (graph.detach node).node? id =
      if id = node.id then none else (graph.node? id).map (dropParent node.id) := by
  have emptied := node?_set_none graph node.id id
  have twice : ∀ other,
      dropParent node.id (dropParent node.id other) = dropParent node.id other := by
    intro other
    rw [dropParent, dropParent,
      without_eq_self fun listed => (mem_without_iff _ _ _).mp listed |>.2 rfl]
  rw [Graph.detach]
  change (node.children.foldl
    (fun (graph : Graph) child => graph.updateNode child (dropParent node.id)) _).node? id = _
  rw [node?_foldl_updateNode twice]
  simp only [node?] at emptied ⊢
  rw [emptied]
  by_cases same : id = node.id
  · simp [same]
  · simp only [same, if_false]
    split
    · rfl
    · next unlisted =>
      cases found : (graph.nodes[id]?).join with
      | none => rfl
      | some other =>
        have otherId : other.id = id := traced.placed id other found
        have otherMember : other ∈ graph.live := mem_live_iff.mpr ⟨id, found⟩
        have unrelated : node.id ∉ other.parents :=
          fun parent => unlisted (otherId ▸ (traced.mem_children_iff member otherMember).mpr parent)
        rw [Option.map_some, dropParent, without_eq_self unrelated]

theorem Traced.live_detach :
    (graph.detach node).live = (leavingOut node.id graph.live).map (dropParent node.id) := by
  have length : (graph.detach node).nodes.length = graph.nodes.length := by
    rw [Graph.detach, length_nodes_foldl_updateNode, List.length_set]
  rw [live_eq_filterMap_range, length, leavingOut, live_eq_filterMap_range graph,
    List.filter_filterMap, List.map_filterMap]
  refine List.filterMap_congr fun id _ => ?_
  rw [traced.node?_detach_eq member]
  cases found : graph.node? id with
  | none => simp
  | some other =>
    have otherId := traced.placed id other found
    by_cases same : id = node.id
    · simp [same, otherId, Option.filter]
    · simp [same, otherId, Option.filter]

private theorem Traced.isLive_detach (id : Nat) :
    (graph.detach node).isLive id = (decide (id ≠ node.id) && graph.isLive id) := by
  rw [isLive, traced.node?_detach_eq member, isLive]
  by_cases same : id = node.id <;> simp [same]

private theorem Traced.map_frame_detach :
    (graph.detach node).live.map Node.frame = (leavingOut node.id graph.live).map Node.frame := by
  rw [traced.live_detach member, List.map_map]
  rfl

private theorem Traced.mem_live_detach {other : Node} (present : other ∈ (graph.detach node).live) :
    ∃ old ∈ graph.live, old.id ≠ node.id ∧ other = dropParent node.id old := by
  rw [traced.live_detach member] at present
  obtain ⟨old, kept, rfl⟩ := List.mem_map.mp present
  obtain ⟨oldMember, different⟩ := (mem_leavingOut_iff node.id graph.live old).mp kept
  exact ⟨old, oldMember, different, rfl⟩

/-- The node goes from all producers, since what it does not write it does not produce. -/
private theorem Traced.get?_producers_detach (tensor : String) :
    (graph.detach node).producers.get? tensor =
      (graph.producers.get? tensor).filter fun id => id ≠ node.id := by
  obtain ⟨nodes, edited⟩ := detach_eq graph node
  rw [edited, get?_foldl_dropProducer]
  split
  · rfl
  · next unwritten =>
    cases found : graph.producers.get? tensor with
    | none => rfl
    | some id =>
      have different : id ≠ node.id := by
        rintro rfl
        have written := (traced.get?_producers_iff member tensor).mp found
        exact unwritten (Node.mem_writes_iff.mp written).1
      simp [Option.filter, different]

/-- The node goes from all readers, since it is not one of what it does not read. -/
private theorem Traced.get?_consumers_detach (tensor : String) :
    (graph.detach node).consumers.get? tensor =
      entry (without node.id (readerIds graph.live tensor)) := by
  obtain ⟨nodes, edited⟩ := detach_eq graph node
  rw [edited, get?_foldl_dropConsumer, traced.consumers tensor]
  split
  · by_cases empty : readerIds graph.live tensor = []
    · simp [entry, empty, without]
    · rw [entry, if_neg empty, Option.bind_some]
  · next unread =>
    rw [without_eq_self fun listed => ?_]
    have read := (traced.placed.mem_readerIds_iff member tensor).mp listed
    exact unread (Node.mem_reads_iff.mp read).1

/-- Detaching a node leaves its parents with a child that is gone, and nothing else to be done. -/
theorem Traced.detach :
    (graph.detach node).Traced
      (node.parents.map (fun parent => (parent, node.id)) ++ stale) where
  placed := by
    intro id other found
    rw [traced.node?_detach_eq member] at found
    split at found
    · cases found
    · obtain ⟨old, present, rfl⟩ := Option.map_eq_some_iff.mp found
      exact traced.placed id old present
  single := by
    refine traced.single.of_alike fun other present => ?_
    obtain ⟨old, oldMember, -, rfl⟩ := traced.mem_live_detach member present
    exact ⟨old, oldMember, rfl, rfl⟩
  producers := by
    intro tensor
    rw [traced.get?_producers_detach member, traced.producers,
      producerIndex_congr (traced.map_frame_detach member),
      get?_producerIndex_leavingOut traced.single.agree]
  consumers := by
    intro tensor
    rw [traced.get?_consumers_detach member, readerIds_congr (traced.map_frame_detach member),
      readerIds_leavingOut]
  parents := by
    intro other present
    obtain ⟨old, oldMember, -, rfl⟩ := traced.mem_live_detach member present
    rw [producerIndex_congr (traced.map_frame_detach member)]
    exact (congrArg (without node.id) (traced.parents old oldMember)).trans
      (parentIds_leavingOut traced.single.agree node.id old).symm
  children := by
    intro other present
    obtain ⟨old, oldMember, different, rfl⟩ := traced.mem_live_detach member present
    have frames := traced.map_frame_detach member
    rw [producerIndex_congr frames, childIds_congr frames]
    refine Eq.trans ?_ (childIds_leavingOut traced.single.agree different).symm
    rw [← traced.children old oldMember, without, List.filter_filter]
    exact List.filter_congr fun child _ => traced.isLive_detach member child
  stale := by
    intro other present child listed
    obtain ⟨old, oldMember, -, rfl⟩ := traced.mem_live_detach member present
    rw [traced.isLive_detach member]
    by_cases same : child = node.id
    · subst same
      have parent := (traced.mem_children_iff oldMember member).mp listed
      exact .inr (List.mem_append_left _ (List.mem_map.mpr ⟨old.id, parent, rfl⟩))
    · rcases traced.stale old oldMember child listed with alive | pending
      · exact .inl (by simp [same, alive])
      · exact .inr (List.mem_append_right _ pending)

end

/-! ## Dropping a child -/

private theorem map_frame_dropChild (graph : Graph) (parent child : Nat) :
    (graph.dropChild parent child).live.map Node.frame = graph.live.map Node.frame := by
  refine map_live_congr Node.frame (List.length_modify ..) fun id => ?_
  rw [node?_dropChild]
  split
  · rw [Option.map_map]
    rfl
  · rfl

private theorem isLive_dropChild (graph : Graph) (parent child : Nat) :
    (graph.dropChild parent child).isLive = graph.isLive := by
  funext id
  rw [isLive, isLive, node?_dropChild]
  split
  · exact Option.isSome_map
  · rfl

/-- Dropping a child that is gone settles it with the parent. -/
theorem Traced.dropChild {graph : Graph} {parent child : Nat} {stale : List (Nat × Nat)}
    (traced : graph.Traced ((parent, child) :: stale)) (gone : graph.node? child = none) :
    (graph.dropChild parent child).Traced stale := by
  have dead : graph.isLive child = false := by rw [isLive, gone, Option.isSome_none]
  refine traced.of_frames rfl rfl (map_frame_dropChild graph parent child)
    (isLive_dropChild graph parent child) fun id node found => ?_
  rw [node?_dropChild] at found
  split at found
  · obtain ⟨old, present, rfl⟩ := Option.map_eq_some_iff.mp found
    refine ⟨old, present, rfl, rfl, ?_, fun other listed => ?_⟩
    · rw [List.filter_filter]
      refine List.filter_congr fun other _ => ?_
      by_cases same : other = child
      · simp [same, dead]
      · simp [same]
    · obtain ⟨earlier, different⟩ := (mem_without_iff _ _ _).mp listed
      refine (traced.stale old (mem_live_iff.mpr ⟨id, present⟩) other earlier).imp_right ?_
      exact fun pending => (List.mem_cons.mp pending).resolve_left fun same =>
        different (Prod.mk.inj same).2
  · next elsewhere =>
    refine ⟨node, found, rfl, rfl, rfl, fun other listed => ?_⟩
    refine (traced.stale node (mem_live_iff.mpr ⟨id, found⟩) other listed).imp_right ?_
    exact fun pending => (List.mem_cons.mp pending).resolve_left fun same =>
      elsewhere ((traced.placed id node found).symm.trans (Prod.mk.inj same).1)

/-! ## The cascade -/

/-- Nodes have gone and none has come. -/
structure Recedes (before after : Graph) : Prop where
  gone : ∀ id, before.node? id = none → after.node? id = none
  size : after.size ≤ before.size

theorem Recedes.refl (graph : Graph) : Recedes graph graph := ⟨fun _ gone => gone, le_rfl⟩

theorem Recedes.trans {before middle after : Graph} (first : Recedes before middle)
    (second : Recedes middle after) : Recedes before after :=
  ⟨fun id gone => second.gone id (first.gone id gone), second.size.trans first.size⟩

theorem Recedes.dropChild (graph : Graph) (parent child : Nat) :
    Recedes graph (graph.dropChild parent child) where
  gone := fun _ => node?_dropChild_eq_none_iff.mpr
  size := by
    have lengths := congrArg List.length (map_frame_dropChild graph parent child)
    rw [List.length_map, List.length_map] at lengths
    exact lengths.le

theorem Traced.size_detach_lt {graph : Graph} {stale : List (Nat × Nat)}
    (traced : graph.Traced stale) {node : Node} (member : node ∈ graph.live) :
    (graph.detach node).size < graph.size := by
  rw [size, traced.live_detach member, List.length_map]
  refine List.length_filter_lt_length_iff_exists.mpr ⟨node, member, ?_⟩
  simp

/-- The parents of a node that is gone are settled in turn, given a way to remove those of them
that are left dead. -/
private theorem Traced.settleParents {bound child : Nat} {pull : Removal → Nat → Removal}
    {stale : List (Nat × Nat)}
    (pulls : ∀ state parent stale, state.graph.Traced stale → state.graph.size ≤ bound →
      (pull state parent).graph.Traced stale ∧ Recedes state.graph (pull state parent).graph)
    (parents : List Nat) (state : Removal)
    (traced : state.graph.Traced (parents.map (fun parent => (parent, child)) ++ stale))
    (gone : state.graph.node? child = none) (small : state.graph.size ≤ bound) :
    let final := parents.foldl (fun state parent =>
      let graph := state.graph.dropChild parent child
      let state := { state with graph }
      if graph.isDeadEnd parent then pull state parent else state) state
    final.graph.Traced stale ∧ Recedes state.graph final.graph := by
  induction parents generalizing state with
  | nil => exact ⟨traced, .refl _⟩
  | cons parent rest ih =>
    have dropped := traced.dropChild gone
    have receded := Recedes.dropChild state.graph parent child
    simp only [List.foldl_cons]
    split
    · obtain ⟨kept, further⟩ := pulls ⟨state.graph.dropChild parent child, state.removed⟩ parent _
        dropped (receded.size.trans small)
      have both := receded.trans further
      obtain ⟨final, last⟩ := ih _ kept (both.gone _ gone) (both.size.trans small)
      exact ⟨final, both.trans last⟩
    · obtain ⟨final, last⟩ := ih ⟨state.graph.dropChild parent child, state.removed⟩ dropped
        (receded.gone _ gone) (receded.size.trans small)
      exact ⟨final, receded.trans last⟩

/-- A removal leaves as much to be done as there was before: what it takes out it settles. -/
theorem Traced.removeWithin (fuel : Nat) {state : Removal} {id : Nat} {stale : List (Nat × Nat)}
    (traced : state.graph.Traced stale) (enough : state.graph.size ≤ fuel) :
    (removeWithin fuel state id).graph.Traced stale ∧
      Recedes state.graph (Graph.removeWithin fuel state id).graph := by
  induction fuel generalizing state id stale with
  | zero => exact ⟨traced, .refl _⟩
  | succ fuel ih =>
    rw [Graph.removeWithin]
    split
    · exact ⟨traced, .refl _⟩
    · next node found =>
      obtain rfl : node.id = id := traced.placed id node found
      have member : node ∈ state.graph.live := mem_live_iff.mpr ⟨_, found⟩
      have smaller := traced.size_detach_lt member
      have gone : (state.graph.detach node).node? node.id = none :=
        node?_detach_eq_none_iff.mpr (.inl rfl)
      have detached : Recedes state.graph (state.graph.detach node) :=
        ⟨fun _ absent => node?_detach_eq_none_iff.mpr (.inr absent), smaller.le⟩
      have pulls : ∀ (next : Removal) (parent : Nat) (stale : List (Nat × Nat)),
          next.graph.Traced stale → next.graph.size ≤ fuel →
          (Graph.removeWithin fuel next parent).graph.Traced stale ∧
            Recedes next.graph (Graph.removeWithin fuel next parent).graph := fun _ _ _ => ih
      obtain ⟨final, last⟩ := Traced.settleParents pulls node.parents
        ⟨state.graph.detach node, state.removed ++ [node]⟩ (traced.detach member) gone
        (Nat.le_of_lt_succ (smaller.trans_le enough))
      exact ⟨final, detached.trans last⟩

theorem Traced.remove {graph : Graph} (traced : graph.Traced []) (id : Nat) :
    (graph.remove id).graph.Traced [] := by
  have whole : (⟨graph, []⟩ : Removal).graph.Traced [] := traced
  exact (Traced.removeWithin graph.size whole le_rfl).1

end StaticNet.Graph
