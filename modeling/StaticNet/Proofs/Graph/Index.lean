import StaticNet.Proofs.Graph.View
import Std.Data.TreeMap.Lemmas

/-! # What a computed index holds

A computed index knows exactly the live nodes: a tensor is found under the nodes that read it, and a
node under the producers of what it reads. The producer of a tensor is unique when no two nodes
write it.
-/

namespace StaticNet.Graph

variable {key : Type} [Ord key] [Std.TransOrd key] [Std.LawfulEqOrd key]

theorem mem_addFirst (id other : Nat) (ids : List Nat) :
    other ∈ addFirst id ids ↔ other = id ∨ other ∈ ids := by
  rw [addFirst]
  split
  · next front =>
    have member := List.mem_of_mem_head? (Option.mem_def.mpr front)
    grind
  · exact List.mem_cons

private theorem mem_getD_foldl_addFirst (id other : Nat) (keys : List key) (name : key)
    (index : Std.TreeMap key (List Nat)) :
    other ∈ (keys.foldl (fun index name =>
        index.insert name (addFirst id (index.getD name []))) index).getD name [] ↔
      other ∈ index.getD name [] ∨ other = id ∧ name ∈ keys := by
  induction keys generalizing index with
  | nil => simp
  | cons first rest ih =>
    rw [List.foldl_cons, ih, Std.TreeMap.getD_insert]
    by_cases same : first = name
    · simp only [same, Std.compare_eq_iff_eq, if_true, mem_addFirst, List.mem_cons]
      grind
    · simp only [Std.compare_eq_iff_eq, same, if_false, List.mem_cons]
      grind

private theorem mem_getD_foldr_addFirst {node : Type} (ids : node → Nat) (names : node → List key)
    (nodes : List node) (other : Nat) (name : key) :
    other ∈ (nodes.foldr (fun node index => (names node).foldl (fun index name =>
        index.insert name (addFirst (ids node) (index.getD name []))) index)
          (∅ : Std.TreeMap key (List Nat))).getD name [] ↔
      ∃ node ∈ nodes, other = ids node ∧ name ∈ names node := by
  induction nodes with
  | nil => simp
  | cons first rest ih =>
    rw [List.foldr_cons, mem_getD_foldl_addFirst, ih]
    simp only [List.mem_cons, or_and_right, exists_or, exists_eq_left]
    grind

theorem mem_consumerIndex_iff (nodes : List Node) (tensor : String) (id : Nat) :
    id ∈ (consumerIndex nodes).getD tensor [] ↔
      ∃ node ∈ nodes, id = node.id ∧ tensor ∈ node.reads :=
  mem_getD_foldr_addFirst Node.id Node.reads nodes id tensor

theorem mem_childIndex_iff (producers : TensorIndex Nat) (nodes : List Node) (parent id : Nat) :
    id ∈ (childIndex producers nodes).getD parent [] ↔
      ∃ node ∈ nodes, id = node.id ∧ parent ∈ parentIds producers node :=
  mem_getD_foldr_addFirst Node.id (parentIds producers) nodes id parent

theorem mem_parentIds_iff (producers : TensorIndex Nat) (node : Node) (id : Nat) :
    id ∈ parentIds producers node ↔ ∃ tensor ∈ node.reads, producers.get? tensor = some id := by
  rw [parentIds, List.mem_eraseDups, List.mem_filterMap]

private theorem get?_foldl_insert (id : Nat) (tensors : List String) (index : TensorIndex Nat)
    (tensor : String) :
    (tensors.foldl (fun index tensor => index.insert tensor id) index).get? tensor =
      if tensor ∈ tensors then some id else index.get? tensor := by
  induction tensors generalizing index with
  | nil => simp
  | cons first rest ih =>
    rw [List.foldl_cons, ih, Std.TreeMap.get?_eq_getElem?, Std.TreeMap.getElem?_insert]
    simp only [Std.compare_eq_iff_eq, List.mem_cons, Std.TreeMap.get?_eq_getElem?]
    grind

private theorem get?_foldl_writes (nodes : List Node) (index : TensorIndex Nat) (tensor : String)
    (id : Nat)
    (found : (nodes.foldl (fun index node => node.writes.foldl
      (fun index tensor => index.insert tensor node.id) index) index).get? tensor = some id) :
    (∃ node ∈ nodes, node.id = id ∧ tensor ∈ node.writes) ∨
      index.get? tensor = some id ∧ ∀ node ∈ nodes, tensor ∉ node.writes := by
  induction nodes generalizing index with
  | nil => exact .inr ⟨found, by simp⟩
  | cons first rest ih =>
    rw [List.foldl_cons] at found
    rcases ih _ found with ⟨node, member, same⟩ | ⟨earlier, none⟩
    · exact .inl ⟨node, List.mem_cons_of_mem _ member, same⟩
    · rw [get?_foldl_insert] at earlier
      split at earlier
      · next written =>
        exact .inl ⟨first, List.mem_cons_self .., Option.some.inj earlier, written⟩
      · next unwritten =>
        exact .inr ⟨earlier, List.forall_mem_cons.mpr ⟨unwritten, none⟩⟩

/-- No tensor is written by two nodes of different ids. -/
def WritersAgree (nodes : List Node) : Prop :=
  ∀ first ∈ nodes, ∀ second ∈ nodes, ∀ tensor, tensor ∈ first.writes → tensor ∈ second.writes →
    first.id = second.id

private theorem isSome_foldl_writes (nodes : List Node) (index : TensorIndex Nat) (tensor : String)
    (known : (∃ node ∈ nodes, tensor ∈ node.writes) ∨ (index.get? tensor).isSome) :
    ((nodes.foldl (fun index node =>
      node.writes.foldl (fun index tensor => index.insert tensor node.id) index) index).get?
        tensor).isSome := by
  induction nodes generalizing index with
  | nil => simpa using known
  | cons first rest ih =>
    rw [List.foldl_cons]
    apply ih
    rw [get?_foldl_insert]
    simp only [List.mem_cons, or_and_right, exists_or, exists_eq_left] at known
    grind

theorem get?_producerIndex_iff {nodes : List Node} (agree : WritersAgree nodes) (tensor : String)
    (id : Nat) :
    (producerIndex nodes).get? tensor = some id ↔
      ∃ node ∈ nodes, node.id = id ∧ tensor ∈ node.writes := by
  constructor
  · intro found
    rcases get?_foldl_writes nodes ∅ tensor id found with written | ⟨absent, -⟩
    · exact written
    · simp at absent
  · rintro ⟨node, member, rfl, written⟩
    have some := isSome_foldl_writes nodes ∅ tensor (.inl ⟨node, member, written⟩)
    obtain ⟨other, found⟩ := Option.isSome_iff_exists.mp some
    rcases get?_foldl_writes nodes ∅ tensor other found with ⟨writer, present, same, wrote⟩ | absent
    · have equal := agree node member writer present tensor written wrote
      exact found.trans (congrArg _ (same.symm.trans equal.symm))
    · simp at absent

end StaticNet.Graph
