import StaticNet.Simplification.Bypass

/-! # Edits as seen through node ids

The view of a graph is its partial function from ids to live nodes. Each edit is described by what
it does to that view and to the other fields of the graph.
-/

namespace StaticNet

namespace Node

theorem mem_reads_iff {node : Node} {tensor : String} :
    tensor ∈ node.reads ↔ tensor ∈ node.inputs ∧ tensor ≠ "" := by
  rw [reads, List.mem_filter, decide_eq_true_eq]

theorem mem_writes_iff {node : Node} {tensor : String} :
    tensor ∈ node.writes ↔ tensor ∈ node.outputs ∧ tensor ≠ "" := by
  rw [writes, List.mem_filter, decide_eq_true_eq]

/-- What is left alone when something is stripped from a node is the same for nodes that look the
same once they are stripped. -/
theorem congr_strip {α : Type} {strip : Node → Node} {node other : Node}
    (same : strip node = strip other) (view : Node → α)
    (plain : ∀ node, view (strip node) = view node) : view node = view other :=
  (plain node).symm.trans ((congrArg view same).trans (plain other))

/-- A node without its place among the other nodes. -/
def core (node : Node) : Node := { node with parents := [], children := [] }

/-- Two nodes differ at most in their places among the other nodes. -/
def Like (node other : Node) : Prop := node.core = other.core

namespace Like

variable {node other third : Node}

theorem refl (node : Node) : node.Like node := Eq.refl node.core

theorem symm (alike : node.Like other) : other.Like node := Eq.symm alike

theorem trans (alike : node.Like other) (next : other.Like third) : node.Like third :=
  Eq.trans alike next

/-- What does not hang on the places of a node is the same for like nodes. -/
theorem congr {α : Type} (alike : node.Like other) (view : Node → α)
    (placeless : ∀ node, view node.core = view node) :
    view node = view other := congr_strip alike view placeless

theorem id (alike : node.Like other) : node.id = other.id := alike.congr Node.id fun _ => rfl

theorem op (alike : node.Like other) : node.op = other.op := alike.congr Node.op fun _ => rfl

theorem inputs (alike : node.Like other) : node.inputs = other.inputs :=
  alike.congr Node.inputs fun _ => rfl

theorem outputs (alike : node.Like other) : node.outputs = other.outputs :=
  alike.congr Node.outputs fun _ => rfl

theorem reads (alike : node.Like other) : node.reads = other.reads :=
  alike.congr Node.reads fun _ => rfl

theorem writes (alike : node.Like other) : node.writes = other.writes :=
  alike.congr Node.writes fun _ => rfl

theorem constants (alike : node.Like other) : node.constants = other.constants :=
  alike.congr Node.constants fun _ => rfl

end Like

end Node

namespace Graph

/-- Every live node stands at the position of its id. -/
def Placed (graph : Graph) : Prop := ∀ id node, graph.node? id = some node → node.id = id

theorem mem_live_iff {graph : Graph} {node : Node} :
    node ∈ graph.live ↔ ∃ id, graph.node? id = some node := by
  simp only [live, node?, List.mem_filterMap, id, exists_eq_right, Option.join_eq_some_iff]
  exact List.mem_iff_getElem?

theorem Placed.node?_of_mem {graph : Graph} (placed : graph.Placed) {node : Node}
    (member : node ∈ graph.live) : graph.node? node.id = some node := by
  obtain ⟨id, found⟩ := mem_live_iff.mp member
  rwa [placed id node found]

theorem Placed.eq_of_id {graph : Graph} (placed : graph.Placed) {one other : Node}
    (oneMember : one ∈ graph.live) (otherMember : other ∈ graph.live) (same : one.id = other.id) :
    one = other := by
  have found := placed.node?_of_mem oneMember
  rw [same, placed.node?_of_mem otherMember] at found
  exact (Option.some.inj found).symm

theorem isInput_iff {graph : Graph} {tensor : String} :
    graph.isInput tensor = true ↔ tensor ∈ graph.inputs.map Edge.id := by
  simp [isInput, edgeNamed?]

theorem isOutput_iff {graph : Graph} {tensor : String} :
    graph.isOutput tensor = true ↔ ∃ edge ∈ graph.outputs, edge.id = tensor := by
  simp [isOutput, edgeNamed?]

theorem isConstant_iff {graph : Graph} {tensor : String} :
    graph.isConstant tensor = true ↔ ∃ value, graph.constants.get? tensor = some value :=
  Option.isSome_iff_exists

theorem isConstant_eq_false_iff {graph : Graph} {tensor : String} :
    graph.isConstant tensor = false ↔ graph.constants.get? tensor = none := by
  rw [isConstant, Dict.contains, Option.isSome_eq_false_iff, Option.isNone_iff_eq_none]

theorem node?_map (graph : Graph) (change : Node → Node) (id : Nat) :
    { graph with nodes := graph.nodes.map (Option.map change) }.node? id =
      (graph.node? id).map change := by
  simp only [node?, List.getElem?_map]
  cases graph.nodes[id]? <;> simp

@[simp] theorem node?_updateNode (graph : Graph) (target id : Nat) (change : Node → Node) :
    (graph.updateNode target change).node? id =
      if id = target then (graph.node? id).map change else graph.node? id := by
  simp only [updateNode, node?, List.getElem?_modify, @eq_comm _ target]
  split
  · cases graph.nodes[id]? <;> simp
  · simp

theorem node?_dropChild (graph : Graph) (parent child id : Nat) :
    (graph.dropChild parent child).node? id =
      if id = parent then (graph.node? id).map fun node =>
        { node with children := node.children.filter (· ≠ child) }
      else graph.node? id :=
  node?_updateNode graph parent id _

theorem node?_dropChild_eq_none_iff {graph : Graph} {parent child id : Nat} :
    (graph.dropChild parent child).node? id = none ↔ graph.node? id = none := by
  rw [node?_dropChild]
  split
  · exact Option.map_eq_none_iff
  · rfl

/-- The view of a graph with one position emptied. -/
theorem node?_set_none (graph : Graph) (target id : Nat) :
    { graph with nodes := graph.nodes.set target none }.node? id =
      if id = target then none else graph.node? id := by
  simp only [node?, List.getElem?_set, @eq_comm _ target]
  grind

/-- Computing the indices anew changes parents and children only. -/
theorem map_core_reindex (graph : Graph) (id : Nat) :
    (graph.reindex.node? id).map Node.core = (graph.node? id).map Node.core := by
  simp only [reindex, node?, List.getElem?_map]
  cases graph.nodes[id]? with
  | none => rfl
  | some slot => cases slot <;> rfl

theorem node?_reindex {graph : Graph} {id : Nat} {node : Node}
    (found : graph.reindex.node? id = some node) :
    ∃ before, graph.node? id = some before ∧ node.Like before := by
  have view := map_core_reindex graph id
  rw [found, Option.map_some, eq_comm, Option.map_eq_some_iff] at view
  obtain ⟨before, present, same⟩ := view
  exact ⟨before, present, same.symm⟩

/-- A live node of a graph with new indices is one of the graph before, up to its place. -/
theorem mem_live_reindex {graph : Graph} {node : Node} (member : node ∈ graph.reindex.live) :
    ∃ before ∈ graph.live, node.Like before := by
  obtain ⟨id, found⟩ := mem_live_iff.mp member
  obtain ⟨before, present, alike⟩ := node?_reindex found
  exact ⟨before, mem_live_iff.mpr ⟨id, present⟩, alike⟩

theorem of_mem_live_reindex {graph : Graph} {node : Node} (member : node ∈ graph.live) :
    ∃ next ∈ graph.reindex.live, next.Like node := by
  obtain ⟨id, found⟩ := mem_live_iff.mp member
  have view := map_core_reindex graph id
  rw [found, Option.map_some, Option.map_eq_some_iff] at view
  obtain ⟨next, present, same⟩ := view
  exact ⟨next, mem_live_iff.mpr ⟨id, present⟩, same⟩

end Graph

end StaticNet
