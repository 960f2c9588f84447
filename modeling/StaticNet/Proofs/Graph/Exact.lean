import StaticNet.Proofs.Graph.Listing
import StaticNet.Proofs.Graph.Removal

/-! # Exact indices

The indices of a graph are exact when they hold what would be computed anew from the live nodes.
They depend on the ids, inputs and outputs of these nodes alone. While a removal is going on, child
lists may still name nodes that are gone; such entries are listed apart.
-/

namespace StaticNet

/-- A node without its constants and its place among the other nodes. -/
def Node.frame (node : Node) : Node :=
  { node with constants := .empty, parents := [], children := [] }

namespace Graph

/-! ## Live nodes as seen through ids -/

private theorem filterMap_id_eq (slots : List (Option Node)) :
    slots.filterMap id = (List.range slots.length).filterMap fun id => (slots[id]?).join := by
  induction slots using List.reverseRecOn with
  | nil => rfl
  | append_singleton slots slot ih =>
    have earlier : (List.range slots.length).filterMap (fun id => ((slots ++ [slot])[id]?).join) =
        (List.range slots.length).filterMap fun id => (slots[id]?).join := by
      refine List.filterMap_congr fun id member => ?_
      rw [List.getElem?_append_left (List.mem_range.mp member)]
    rw [List.filterMap_append, List.length_append, List.length_singleton, List.range_succ,
      List.filterMap_append, earlier, ih]
    cases slot <;> simp

theorem live_eq_filterMap_range (graph : Graph) :
    graph.live = (List.range graph.nodes.length).filterMap graph.node? :=
  filterMap_id_eq graph.nodes

/-- Graphs of one length that look the same through every id have the same live nodes. -/
theorem map_live_congr {α : Type} (view : Node → α) {before after : Graph}
    (length : after.nodes.length = before.nodes.length)
    (same : ∀ id, (after.node? id).map view = (before.node? id).map view) :
    after.live.map view = before.live.map view := by
  simp only [live_eq_filterMap_range, List.map_filterMap, length, same]

/-- Live nodes are listed in the order of their ids. -/
theorem Placed.pairwise_lt {graph : Graph} (placed : graph.Placed) :
    graph.live.Pairwise fun node later => node.id < later.id := by
  rw [live_eq_filterMap_range, List.pairwise_filterMap]
  refine List.pairwise_lt_range.imp fun {first second} less node found later laterFound => ?_
  rw [placed first node found, placed second later laterFound]
  exact less

theorem Placed.nodup_map_id {graph : Graph} (placed : graph.Placed) :
    (graph.live.map Node.id).Nodup :=
  List.pairwise_map.mpr (placed.pairwise_lt.imp Nat.ne_of_lt)

/-- Whether an id stands for a live node. -/
def isLive (graph : Graph) (id : Nat) : Bool := (graph.node? id).isSome

theorem isLive_iff {graph : Graph} (placed : graph.Placed) {id : Nat} :
    graph.isLive id = true ↔ ∃ node ∈ graph.live, node.id = id := by
  rw [isLive, Option.isSome_iff_exists]
  constructor
  · rintro ⟨node, found⟩
    exact ⟨node, mem_live_iff.mpr ⟨id, found⟩, placed id node found⟩
  · rintro ⟨node, member, rfl⟩
    exact ⟨node, placed.node?_of_mem member⟩

/-! ## What indices depend on -/

section
variable {nodes others : List Node} (same : nodes.map Node.frame = others.map Node.frame)
include same

theorem producerIndex_congr : producerIndex nodes = producerIndex others := by
  have framed : ∀ nodes : List Node, producerIndex (nodes.map Node.frame) = producerIndex nodes :=
    fun nodes => List.foldl_map
  rw [← framed nodes, same, framed]

theorem readerIds_congr (tensor : String) : readerIds nodes tensor = readerIds others tensor := by
  have framed : ∀ nodes : List Node,
      readerIds (nodes.map Node.frame) tensor = readerIds nodes tensor := by
    intro nodes
    rw [readerIds, List.filter_map, List.map_map]
    rfl
  rw [← framed nodes, same, framed]

theorem childIds_congr (producers : TensorIndex Nat) (parent : Nat) :
    childIds producers nodes parent = childIds producers others parent := by
  have framed : ∀ nodes : List Node,
      childIds producers (nodes.map Node.frame) parent = childIds producers nodes parent := by
    intro nodes
    rw [childIds, List.filter_map, List.map_map]
    rfl
  rw [← framed nodes, same, framed]

end

theorem WritersAgree.of_alike {nodes others : List Node} (agree : WritersAgree others)
    (alike : ∀ node ∈ nodes, ∃ other ∈ others, other.id = node.id ∧ other.writes = node.writes) :
    WritersAgree nodes := by
  intro first firstMember second secondMember tensor firstWrites secondWrites
  obtain ⟨one, oneMember, oneId, oneWrites⟩ := alike first firstMember
  obtain ⟨other, otherMember, otherId, otherWrites⟩ := alike second secondMember
  rw [← oneId, ← otherId]
  exact agree one oneMember other otherMember tensor (oneWrites ▸ firstWrites)
    (otherWrites ▸ secondWrites)

/-- No tensor is written twice, by two nodes or by one. -/
structure SingleWriters (nodes : List Node) : Prop where
  agree : WritersAgree nodes
  distinct : ∀ node ∈ nodes, node.writes.Nodup

theorem SingleWriters.of_alike {nodes others : List Node} (single : SingleWriters others)
    (alike : ∀ node ∈ nodes, ∃ other ∈ others, other.id = node.id ∧ other.writes = node.writes) :
    SingleWriters nodes := by
  refine ⟨single.agree.of_alike alike, fun node member => ?_⟩
  obtain ⟨other, present, -, writes⟩ := alike node member
  exact writes ▸ single.distinct other present

/-- A tensor stands in one place among the outputs of its writer. -/
theorem SingleWriters.index_eq {nodes : List Node} (single : SingleWriters nodes) {node : Node}
    (member : node ∈ nodes) {first second : Nat} {tensor : String} (present : tensor ≠ "")
    (one : node.outputs[first]? = some tensor) (other : node.outputs[second]? = some tensor) :
    first = second := by
  have distinct := single.distinct node member
  rw [Node.writes, List.Nodup, List.pairwise_filter, List.pairwise_iff_getElem] at distinct
  obtain ⟨firstInside, rfl⟩ := List.getElem?_eq_some_iff.mp one
  obtain ⟨secondInside, same⟩ := List.getElem?_eq_some_iff.mp other
  have kept := decide_eq_true present
  rcases Nat.lt_trichotomy first second with less | equal | greater
  · exact absurd same.symm (distinct first second firstInside secondInside less kept (same ▸ kept))
  · exact equal
  · exact absurd same (distinct second first secondInside firstInside greater (same ▸ kept) kept)

/-- No live node writes an input or a constant. -/
def Exclusive (graph : Graph) : Prop :=
  ∀ node ∈ graph.live, ∀ tensor ∈ node.writes,
    graph.isInput tensor = false ∧ graph.isConstant tensor = false

/-! ## Exact indices -/

/-- The indices hold what would be computed anew, but for the listed pairs of a live parent and a
child that is gone. -/
structure Traced (graph : Graph) (stale : List (Nat × Nat)) : Prop where
  placed : graph.Placed
  single : SingleWriters graph.live
  producers : ∀ tensor, graph.producers.get? tensor = (producerIndex graph.live).get? tensor
  consumers : ∀ tensor, graph.consumers.get? tensor = entry (readerIds graph.live tensor)
  parents : ∀ node ∈ graph.live, node.parents = parentIds (producerIndex graph.live) node
  children : ∀ node ∈ graph.live, node.children.filter graph.isLive =
    childIds (producerIndex graph.live) graph.live node.id
  stale : ∀ node ∈ graph.live, ∀ child ∈ node.children,
    graph.isLive child = true ∨ (node.id, child) ∈ stale

/-- A node counts among the readers of exactly what it reads. -/
theorem Placed.mem_readerIds_iff {graph : Graph} (placed : graph.Placed) {node : Node}
    (member : node ∈ graph.live) (tensor : String) :
    node.id ∈ readerIds graph.live tensor ↔ tensor ∈ node.reads := by
  rw [Graph.mem_readerIds_iff]
  constructor
  · rintro ⟨reader, present, same, read⟩
    exact placed.eq_of_id present member same ▸ read
  · exact fun read => ⟨node, member, rfl, read⟩

theorem Traced.readersListed {graph : Graph} {stale : List (Nat × Nat)}
    (traced : graph.Traced stale) : graph.ReadersListed := by
  intro node member tensor read
  rw [traced.consumers, getD_entry]
  exact (traced.placed.mem_readerIds_iff member tensor).mpr read

/-- A node is the producer of exactly what it writes. -/
theorem Traced.get?_producers_iff {graph : Graph} {stale : List (Nat × Nat)}
    (traced : graph.Traced stale) {node : Node} (member : node ∈ graph.live) (tensor : String) :
    graph.producers.get? tensor = some node.id ↔ tensor ∈ node.writes := by
  rw [traced.producers, get?_producerIndex_iff traced.single.agree]
  constructor
  · rintro ⟨writer, present, same, written⟩
    exact traced.placed.eq_of_id present member same ▸ written
  · exact fun written => ⟨node, member, rfl, written⟩

theorem Traced.mem_children_iff {graph : Graph} {stale : List (Nat × Nat)}
    (traced : graph.Traced stale) {parent child : Node} (parentMember : parent ∈ graph.live)
    (childMember : child ∈ graph.live) :
    child.id ∈ parent.children ↔ parent.id ∈ child.parents := by
  have live : graph.isLive child.id = true :=
    (isLive_iff traced.placed).mpr ⟨child, childMember, rfl⟩
  have listed : child.id ∈ parent.children ↔ child.id ∈ parent.children.filter graph.isLive := by
    rw [List.mem_filter, live, and_iff_left rfl]
  rw [listed, traced.children parent parentMember, mem_childIds_iff,
    traced.parents child childMember]
  constructor
  · rintro ⟨node, member, same, reads⟩
    exact traced.placed.eq_of_id member childMember same ▸ reads
  · exact fun reads => ⟨child, childMember, rfl, reads⟩

/-- Indices stay exact when they and the nodes are as before, but for constants and for children
that are gone. The pairs with these are settled. -/
theorem Traced.of_frames {before after : Graph} {stale pending : List (Nat × Nat)}
    (traced : before.Traced stale) (producers : after.producers = before.producers)
    (consumers : after.consumers = before.consumers)
    (frames : after.live.map Node.frame = before.live.map Node.frame)
    (alive : after.isLive = before.isLive)
    (kept : ∀ id node, after.node? id = some node → ∃ old, before.node? id = some old ∧
      node.frame = old.frame ∧ node.parents = old.parents ∧
      node.children.filter before.isLive = old.children.filter before.isLive ∧
      ∀ child ∈ node.children, before.isLive child = true ∨ (old.id, child) ∈ pending) :
    after.Traced pending where
  placed := by
    intro id node found
    obtain ⟨old, present, frame, -⟩ := kept id node found
    exact (Node.congr_strip frame Node.id fun _ => rfl).trans (traced.placed id old present)
  single := by
    refine traced.single.of_alike fun node member => ?_
    obtain ⟨id, found⟩ := mem_live_iff.mp member
    obtain ⟨old, present, frame, -⟩ := kept id node found
    exact ⟨old, mem_live_iff.mpr ⟨id, present⟩, Node.congr_strip frame.symm Node.id fun _ => rfl,
      Node.congr_strip frame.symm Node.writes fun _ => rfl⟩
  producers := by
    intro tensor
    rw [producers, producerIndex_congr frames, traced.producers]
  consumers := by
    intro tensor
    rw [consumers, readerIds_congr frames, traced.consumers]
  parents := by
    intro node member
    obtain ⟨id, found⟩ := mem_live_iff.mp member
    obtain ⟨old, present, frame, parents, -⟩ := kept id node found
    rw [parents, producerIndex_congr frames, traced.parents old (mem_live_iff.mpr ⟨id, present⟩)]
    exact (Node.congr_strip frame (parentIds (producerIndex before.live)) fun _ => rfl).symm
  children := by
    intro node member
    obtain ⟨id, found⟩ := mem_live_iff.mp member
    obtain ⟨old, present, frame, -, children, -⟩ := kept id node found
    rw [alive, children, producerIndex_congr frames, childIds_congr frames,
      traced.children old (mem_live_iff.mpr ⟨id, present⟩),
      Node.congr_strip frame Node.id fun _ => rfl]
  stale := by
    intro node member child listed
    obtain ⟨id, found⟩ := mem_live_iff.mp member
    obtain ⟨old, -, frame, -, -, settled⟩ := kept id node found
    rw [alive, Node.congr_strip frame Node.id fun _ => rfl]
    exact settled child listed

end Graph

end StaticNet
