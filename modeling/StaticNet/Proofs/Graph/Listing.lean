import StaticNet.Proofs.Graph.Index

/-! # The lists that a computed index holds

What is found under a name is the list of the nodes that belong there, in declaration order. When a
node is left out, its id goes from every list and nothing else changes. This is what allows indices
to be kept up to date instead of being computed anew.
-/

namespace StaticNet.Graph

/-- An entry of an index: a list of ids, which is left out when it is empty. -/
def entry (ids : List Nat) : Option (List Nat) := if ids = [] then none else some ids

theorem getD_entry (ids : List Nat) : (entry ids).getD [] = ids := by
  rw [entry]
  split
  · next empty => exact empty.symm
  · rfl

/-- The ids of the nodes that read a tensor, in declaration order. -/
def readerIds (nodes : List Node) (tensor : String) : List Nat :=
  (nodes.filter fun node => tensor ∈ node.reads).map Node.id

/-- The ids of the nodes with a given parent, in declaration order. -/
def childIds (producers : TensorIndex Nat) (nodes : List Node) (parent : Nat) : List Nat :=
  (nodes.filter fun node => parent ∈ parentIds producers node).map Node.id

theorem mem_readerIds_iff (nodes : List Node) (tensor : String) (id : Nat) :
    id ∈ readerIds nodes tensor ↔ ∃ node ∈ nodes, node.id = id ∧ tensor ∈ node.reads := by
  simp only [readerIds, List.mem_map, List.mem_filter, decide_eq_true_eq]
  grind

theorem mem_childIds_iff (producers : TensorIndex Nat) (nodes : List Node) (parent id : Nat) :
    id ∈ childIds producers nodes parent ↔
      ∃ node ∈ nodes, node.id = id ∧ parent ∈ parentIds producers node := by
  simp only [childIds, List.mem_map, List.mem_filter, decide_eq_true_eq]
  grind

/-! ## Entries -/

section
variable {key : Type} [DecidableEq key] [Ord key] [Std.TransOrd key] [Std.LawfulEqOrd key]

private theorem addFirst_addFirst (id : Nat) (ids : List Nat) :
    addFirst id (addFirst id ids) = addFirst id ids := by
  have front : (addFirst id ids).head? = some id := by
    rw [addFirst]
    split
    · assumption
    · rfl
  rw [addFirst, if_pos front]

private theorem get?_foldl_addFirst (id : Nat) (keys : List key) (name : key)
    (index : Std.TreeMap key (List Nat)) :
    (keys.foldl (fun index name =>
        index.insert name (addFirst id (index.getD name []))) index).get? name =
      if name ∈ keys then some (addFirst id (index.getD name [])) else index.get? name := by
  induction keys generalizing index with
  | nil => simp
  | cons first rest ih =>
    rw [List.foldl_cons, ih, Std.TreeMap.getD_insert, Std.TreeMap.get?_eq_getElem?,
      Std.TreeMap.getElem?_insert]
    by_cases same : first = name
    · simp only [same, Std.compare_eq_iff_eq, if_true, addFirst_addFirst, List.mem_cons, true_or,
        ite_self]
    · simp only [Std.compare_eq_iff_eq, same, if_false, List.mem_cons, eq_comm (a := name),
        false_or, Std.TreeMap.get?_eq_getElem?]

/-- Nodes with different ids are listed one after the other, each of them once. -/
private theorem get?_foldr_addFirst {node : Type} (ids : node → Nat) (names : node → List key)
    (nodes : List node) (distinct : (nodes.map ids).Nodup) (name : key) :
    (nodes.foldr (fun node index => (names node).foldl (fun index name =>
        index.insert name (addFirst (ids node) (index.getD name []))) index)
          (∅ : Std.TreeMap key (List Nat))).get? name =
      entry ((nodes.filter fun node => name ∈ names node).map ids) := by
  induction nodes with
  | nil => simp [entry]
  | cons first rest ih =>
    rw [List.map_cons, List.nodup_cons] at distinct
    have later := ih distinct.2
    rw [List.foldr_cons, get?_foldl_addFirst, Std.TreeMap.getD_eq_getD_getElem?,
      ← Std.TreeMap.get?_eq_getElem?, later, getD_entry]
    by_cases named : name ∈ names first
    · have fresh : ((rest.filter fun node => name ∈ names node).map ids).head? ≠
          some (ids first) := by
        intro front
        have member := List.mem_of_mem_head? (Option.mem_def.mpr front)
        exact distinct.1 (List.filter_sublist.map ids |>.subset member)
      rw [if_pos named, addFirst, if_neg fresh, List.filter_cons, if_pos (decide_eq_true named)]
      rfl
    · simp [named]

end

theorem get?_consumerIndex {nodes : List Node} (distinct : (nodes.map Node.id).Nodup)
    (tensor : String) : (consumerIndex nodes).get? tensor = entry (readerIds nodes tensor) :=
  get?_foldr_addFirst Node.id Node.reads nodes distinct tensor

theorem getD_childIndex (producers : TensorIndex Nat) {nodes : List Node}
    (distinct : (nodes.map Node.id).Nodup) (parent : Nat) :
    (childIndex producers nodes).getD parent [] = childIds producers nodes parent := by
  have found := get?_foldr_addFirst Node.id (parentIds producers) nodes distinct parent
  rw [Std.TreeMap.getD_eq_getD_getElem?, ← Std.TreeMap.get?_eq_getElem?]
  exact (congrArg (Option.getD · []) found).trans (getD_entry _)

/-! ## Leaving a node out -/

/-- The nodes but for the one of an id. -/
def leavingOut (id : Nat) (nodes : List Node) : List Node := nodes.filter fun node => node.id ≠ id

/-- The ids but for one. -/
def without (id : Nat) (ids : List Nat) : List Nat := ids.filter fun other => other ≠ id

theorem mem_without_iff (id other : Nat) (ids : List Nat) :
    other ∈ without id ids ↔ other ∈ ids ∧ other ≠ id := by
  rw [without, List.mem_filter, decide_eq_true_eq]

theorem without_eq_self {id : Nat} {ids : List Nat} (absent : id ∉ ids) : without id ids = ids := by
  refine List.filter_eq_self.mpr fun other member => decide_eq_true ?_
  rintro rfl
  exact absent member

theorem mem_leavingOut_iff (id : Nat) (nodes : List Node) (node : Node) :
    node ∈ leavingOut id nodes ↔ node ∈ nodes ∧ node.id ≠ id := by
  rw [leavingOut, List.mem_filter, decide_eq_true_eq]

theorem WritersAgree.leavingOut {nodes : List Node} (agree : WritersAgree nodes) (id : Nat) :
    WritersAgree (leavingOut id nodes) := by
  intro first firstMember second secondMember
  exact agree first ((mem_leavingOut_iff id nodes first).mp firstMember).1 second
    ((mem_leavingOut_iff id nodes second).mp secondMember).1

theorem readerIds_leavingOut (id : Nat) (nodes : List Node) (tensor : String) :
    readerIds (leavingOut id nodes) tensor = without id (readerIds nodes tensor) := by
  simp only [readerIds, leavingOut, without, List.filter_map, List.filter_filter,
    Function.comp_def, Bool.and_comm]

theorem get?_producerIndex_leavingOut {nodes : List Node} (agree : WritersAgree nodes) (id : Nat)
    (tensor : String) :
    (producerIndex (leavingOut id nodes)).get? tensor =
      ((producerIndex nodes).get? tensor).filter fun other => other ≠ id := by
  ext other
  rw [get?_producerIndex_iff (agree.leavingOut id), Option.filter_eq_some_iff,
    get?_producerIndex_iff agree, decide_eq_true_eq]
  simp only [mem_leavingOut_iff]
  grind

private theorem filter_eraseDups (test : Nat → Bool) (ids : List Nat) :
    ids.eraseDups.filter test = (ids.filter test).eraseDups := by
  cases ids with
  | nil => rfl
  | cons first rest =>
    have later := filter_eraseDups test (rest.filter fun other => !other == first)
    rw [List.eraseDups_cons]
    cases kept : test first with
    | true =>
      rw [List.filter_cons_of_pos kept, List.filter_cons_of_pos kept, List.eraseDups_cons, later]
      simp only [List.filter_filter, Bool.and_comm]
    | false =>
      -- What passes the test differs from the first id, so erasing that id is no loss.
      have different : ∀ other, (test other && !other == first) = test other := by
        intro other
        by_cases same : other = first
        · simp [same, kept]
        · simp [same]
      rw [List.filter_cons_of_neg (by simp [kept]), List.filter_cons_of_neg (by simp [kept]),
        later, List.filter_filter]
      simp only [different]
termination_by ids.length
decreasing_by
  have shorter := List.length_filter_le (fun other => !other == first) rest
  rw [List.length_cons]
  omega

theorem parentIds_leavingOut {nodes : List Node} (agree : WritersAgree nodes) (id : Nat)
    (node : Node) :
    parentIds (producerIndex (leavingOut id nodes)) node =
      without id (parentIds (producerIndex nodes) node) := by
  rw [parentIds, parentIds, without, filter_eraseDups, List.filter_filterMap,
    funext (get?_producerIndex_leavingOut agree id)]

theorem childIds_leavingOut {nodes : List Node} (agree : WritersAgree nodes) {id parent : Nat}
    (different : parent ≠ id) :
    childIds (producerIndex (leavingOut id nodes)) (leavingOut id nodes) parent =
      without id (childIds (producerIndex nodes) nodes parent) := by
  simp only [childIds, parentIds_leavingOut agree, mem_without_iff, different, ne_eq,
    not_false_eq_true, and_true]
  rw [leavingOut, without, List.filter_map, List.filter_filter, List.filter_filter]
  simp only [Function.comp_def, Bool.and_comm]

/-! ## Taking a node out of the indices -/

private theorem get?_dropProducer (id : Nat) (producers : TensorIndex Nat) (tensor name : String) :
    (dropProducer id producers tensor).get? name =
      if name = tensor then (producers.get? name).filter fun other => other ≠ id
      else producers.get? name := by
  rw [dropProducer]
  by_cases same : name = tensor
  · subst same
    split
    · next found =>
      rw [found, Std.TreeMap.get?_eq_getElem?, Std.TreeMap.getElem?_erase_self]
      simp [Option.filter]
    · next kept =>
      rw [if_pos rfl]
      cases found : producers.get? name with
      | none => rfl
      | some other => grind
  · have apart : tensor ≠ name := Ne.symm same
    rw [if_neg same]
    split
    · simp [Std.TreeMap.get?_eq_getElem?, Std.TreeMap.getElem?_erase, apart]
    · rfl

theorem get?_foldl_dropProducer (id : Nat) (tensors : List String)
    (producers : TensorIndex Nat) (name : String) :
    (tensors.foldl (dropProducer id) producers).get? name =
      if name ∈ tensors then (producers.get? name).filter fun other => other ≠ id
      else producers.get? name := by
  induction tensors generalizing producers with
  | nil => rfl
  | cons first rest ih =>
    rw [List.foldl_cons, ih, get?_dropProducer]
    by_cases same : name = first
    · simp [same, Option.filter_filter]
    · simp [same]

private theorem get?_dropConsumer (id : Nat) (consumers : TensorIndex (List Nat))
    (tensor name : String) :
    (dropConsumer id consumers tensor).get? name =
      if name = tensor then (consumers.get? name).bind fun ids => entry (without id ids)
      else consumers.get? name := by
  rw [dropConsumer]
  by_cases same : name = tensor
  · subst same
    rw [if_pos rfl]
    cases found : consumers.get? name with
    | none => exact found
    | some ids =>
      dsimp only [Option.bind_some]
      by_cases empty : without id ids = []
      · have test : (ids.filter (· ≠ id)).isEmpty = true := List.isEmpty_iff.mpr empty
        rw [if_pos test, entry, if_pos empty]
        simp [Std.TreeMap.get?_eq_getElem?]
      · have test : (ids.filter (· ≠ id)).isEmpty = false := List.isEmpty_eq_false_iff.mpr empty
        rw [test, entry, if_neg empty]
        simp [Std.TreeMap.get?_eq_getElem?, without]
  · have apart : tensor ≠ name := Ne.symm same
    rw [if_neg same]
    split
    · rfl
    · dsimp only
      split
      · simp [Std.TreeMap.get?_eq_getElem?, Std.TreeMap.getElem?_erase, apart]
      · simp [Std.TreeMap.get?_eq_getElem?, Std.TreeMap.getElem?_insert, apart]

theorem get?_foldl_dropConsumer (id : Nat) (tensors : List String)
    (consumers : TensorIndex (List Nat)) (name : String) :
    (tensors.foldl (dropConsumer id) consumers).get? name =
      if name ∈ tensors then (consumers.get? name).bind fun ids => entry (without id ids)
      else consumers.get? name := by
  induction tensors generalizing consumers with
  | nil => rfl
  | cons first rest ih =>
    rw [List.foldl_cons, ih, get?_dropConsumer]
    by_cases same : name = first
    · have twice : ∀ ids, (entry (without id ids)).bind (fun ids => entry (without id ids)) =
          entry (without id ids) := by
        intro ids
        rw [entry]
        split
        · rfl
        · rw [Option.bind_some,
            without_eq_self fun member => (mem_without_iff _ _ _).mp member |>.2 rfl]
          rw [entry, if_neg ‹_›]
      simp [same, Option.bind_assoc, twice]
    · simp [same]

theorem getD_foldl_dropConsumer (id : Nat) (tensors : List String)
    (consumers : TensorIndex (List Nat)) (name : String) :
    ((tensors.foldl (dropConsumer id) consumers).get? name).getD [] =
      if name ∈ tensors then without id ((consumers.get? name).getD [])
      else (consumers.get? name).getD [] := by
  rw [get?_foldl_dropConsumer]
  split
  · cases consumers.get? name with
    | none => rfl
    | some ids => exact getD_entry _
  · rfl

end StaticNet.Graph
