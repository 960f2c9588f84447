import StaticNet.Proofs.Onnx.Order

/-! # Tensors without a name

A node leaves an input or an output out by giving it the empty name. The search for producers takes
that for a name like any other, so a node with a missing input asks for the last node with a
missing output. This changes nothing as long as that node has been visited already. For nodes that
are in order but for the empty name, the order stays the same exactly when no node with a missing
input comes before one with a missing output.
-/

namespace StaticNet.Onnx

/-- The node without the inputs and outputs that are left out. -/
def NodeRecord.named (node : NodeRecord) : NodeRecord :=
  { node with
    inputs := node.inputs.filter fun tensor => tensor ≠ ""
    outputs := node.outputs.filter fun tensor => tensor ≠ "" }

variable {nodes : List NodeRecord}

/-! ## The named part of a list -/

theorem writes_named_iff {position : Nat} {tensor : String} :
    Writes (nodes.map NodeRecord.named) position tensor ↔
      Writes nodes position tensor ∧ tensor ≠ "" := by
  rw [Writes, Writes, List.getElem?_map]
  cases nodes[position]? with
  | none => simp
  | some node => simp [NodeRecord.named]

theorem get?_producerTable_named (tensor : String) :
    (producerTable (nodes.map NodeRecord.named)).get? tensor =
      if tensor = "" then none else (producerTable nodes).get? tensor := by
  refine Option.ext fun position => ?_
  rw [get?_producerTable_eq_some_iff, Option.ite_none_left_eq_some, get?_producerTable_eq_some_iff]
  simp only [writes_named_iff]
  grind

theorem suppliers_named (position : Nat) :
    suppliers (producerTable (nodes.map NodeRecord.named)) (nodes.map NodeRecord.named) position =
      (((nodes[position]?).map NodeRecord.inputs).getD []).filterMap fun tensor =>
        if tensor = "" then none else (producerTable nodes).get? tensor := by
  rw [suppliers, List.getElem?_map]
  cases nodes[position]? with
  | none => rfl
  | some node =>
    simp only [Option.map_some, Option.getD_some, NodeRecord.named, List.filterMap_filter]
    refine List.filterMap_congr fun tensor _ => ?_
    rw [get?_producerTable_named]
    grind

/-- By its named inputs a node asks for the same, unless it has a missing input and some node has a
missing output. -/
theorem suppliers_named_eq {position : Nat}
    (unwritten : Reads nodes position "" → (producerTable nodes).get? "" = none) :
    suppliers (producerTable (nodes.map NodeRecord.named)) (nodes.map NodeRecord.named) position =
      suppliers (producerTable nodes) nodes position := by
  rw [suppliers_named, suppliers]
  refine List.filterMap_congr fun tensor member => ?_
  split
  · next empty =>
    subst empty
    refine (unwritten ?_).symm
    cases found : nodes[position]? with
    | none => simp [found] at member
    | some node => exact ⟨node, found, by simpa [found] using member⟩
  · rfl

/-- What is asked for besides is the last node with a missing output. -/
theorem filter_suppliers_named {unnamed : Nat}
    (last : (producerTable nodes).get? "" = some unnamed) (position : Nat) :
    (suppliers (producerTable (nodes.map NodeRecord.named)) (nodes.map NodeRecord.named)
        position).filter (· ≠ unnamed) =
      (suppliers (producerTable nodes) nodes position).filter (· ≠ unnamed) := by
  rw [suppliers_named, suppliers, List.filter_filterMap, List.filter_filterMap]
  refine List.filterMap_congr fun tensor _ => ?_
  split
  · next empty => simp [empty, last, Option.filter]
  · rfl

/-! ## The two searches -/

private theorem range_eq_append_cons {position count : Nat} (less : position < count) :
    ∃ rest, List.range count = List.range position ++ position :: rest := by
  refine ⟨(List.range count).drop (position + 1), ?_⟩
  have inside : position < (List.range count).length := by rwa [List.length_range]
  have split := List.take_append_drop position (List.range count)
  rw [List.drop_eq_getElem_cons inside, List.getElem_range, List.take_range,
    Nat.min_eq_left (Nat.le_of_lt less)] at split
  exact split.symm

/-- The order is the same if one search can be turned into the other. -/
private theorem visitOrder_named_of_explores
    (transfer : ∀ final, Explores (suppliers (producerTable (nodes.map NodeRecord.named))
        (nodes.map NodeRecord.named)) .start (List.range nodes.length) final →
      Explores (suppliers (producerTable nodes) nodes) .start (List.range nodes.length) final) :
    visitOrder (nodes.map NodeRecord.named) = visitOrder nodes := by
  obtain ⟨final, run, -, same⟩ := explores_visitOrder nodes
  obtain ⟨named, runNamed, -, sameNamed⟩ := explores_visitOrder (nodes.map NodeRecord.named)
  rw [List.length_map] at runNamed
  rw [same, sameNamed, (transfer named runNamed).unique run]

/-- The order stays the same if every node that depends on a missing input, as its own or through
others, stands at or after all nodes with a missing output. -/
theorem visitOrder_named_of_le
    (later : ∀ unnamed reader dependent, Writes nodes unnamed "" → Reads nodes reader "" →
      Relation.ReflTransGen (Supplies (nodes.map NodeRecord.named)) reader dependent →
      unnamed ≤ dependent) :
    visitOrder (nodes.map NodeRecord.named) = visitOrder nodes := by
  refine visitOrder_named_of_explores fun final run => ?_
  cases last : (producerTable nodes).get? "" with
  | none =>
    have equal : suppliers (producerTable (nodes.map NodeRecord.named))
        (nodes.map NodeRecord.named) = suppliers (producerTable nodes) nodes :=
      funext fun _ => suppliers_named_eq fun _ => last
    exact equal ▸ run
  | some unnamed =>
    have writes := (get?_producerTable_eq_some_iff.mp last).1
    obtain ⟨rest, split⟩ := range_eq_append_cons writes.lt_length
    rw [split, List.append_cons] at run ⊢
    obtain ⟨middle, first, second⟩ := run.of_append
    -- up to the last node with a missing output nothing depends on a missing input but itself
    refine (first.transfer (filter_suppliers_named last) fun position member => ?_).append
      (second.transfer (filter_suppliers_named last) fun _ _ => .inl (first.covers (by simp)))
    rcases List.mem_append.mp member with before | own
    · refine .inr (.inr fun reached path => suppliers_named_eq fun reads => ?_)
      have depends : Relation.ReflTransGen (Supplies (nodes.map NodeRecord.named))
          reached position := by
        refine Relation.reflTransGen_swap.mp (Relation.ReflTransGen.mono ?_ _ _ path)
        exact fun _ _ asked => supplies_of_mem_suppliers asked
      exact absurd (List.mem_range.mp before)
        (Nat.not_lt.mpr (later unnamed reached position writes reads depends))
    · exact .inr (.inl (List.mem_singleton.mp own))

theorem visitOrder_named_of_inOrder (inOrder : InOrder (nodes.map NodeRecord.named)) :
    visitOrder (nodes.map NodeRecord.named) = List.range nodes.length := by
  rw [visitOrder_eq_range fun position _ supplier asked =>
    inOrder supplier position (supplies_of_mem_suppliers asked), List.length_map]

/-- The first node with a missing input is visited after all nodes with a missing output, also
where it stands before one of them. -/
theorem visitOrder_ne_range {unnamed reader : Nat} (inOrder : InOrder (nodes.map NodeRecord.named))
    (writes : Writes nodes unnamed "") (reads : Reads nodes reader "") (before : reader < unnamed) :
    visitOrder nodes ≠ List.range nodes.length := by
  induction reader using Nat.strongRecOn with
  | _ reader ih =>
  by_cases first : ∃ earlier < reader, Reads nodes earlier ""
  · obtain ⟨earlier, less, readsEarlier⟩ := first
    exact ih earlier less readsEarlier (Nat.lt_trans less before)
  obtain ⟨last, found, bound⟩ := exists_producer writes
  obtain ⟨final, run, -, same⟩ := explores_visitOrder nodes
  obtain ⟨rest, split⟩ := range_eq_append_cons (Nat.lt_trans before writes.lt_length)
  rw [split] at run
  obtain ⟨middle, complete, others⟩ := run.of_append
  -- up to this node no input is missing, so the positions are finished in order
  have smaller : ∀ position < reader,
      ∀ supplier ∈ suppliers (producerTable nodes) nodes position, supplier < position := by
    intro position less supplier asked
    rw [← suppliers_named_eq fun missing => absurd ⟨position, less, missing⟩ first] at asked
    exact inOrder supplier position (supplies_of_mem_suppliers asked)
  obtain rfl := complete.unique (Explores.ascending smaller)
  have asked : last ∈ suppliers (producerTable nodes) nodes reader :=
    mem_suppliers_iff.mpr ⟨"", reads, found⟩
  have unseen : last ∉ reader :: (List.range reader).reverse := by
    simp only [List.mem_cons, List.mem_reverse, List.mem_range]
    omega
  obtain ⟨after, earlier, finished, member⟩ := others.finished_of_fresh (by simp) asked unseen
  intro ascending
  have descending : final.finished.reverse.Pairwise (· < ·) := by
    rw [← same, ascending]
    exact List.pairwise_lt_range
  rw [finished, List.pairwise_reverse, List.pairwise_append, List.pairwise_cons] at descending
  have smallerLast := descending.2.1.1 last member
  omega

/-- The order stays the same without the empty names if every node that depends on a missing input,
as its own or through others, stands at or after all nodes with a missing output. For nodes that are
in order without the empty names, it stays the same exactly if no node with a missing input stands
before one with a missing output. -/
theorem visitOrder_named (nodes : List NodeRecord) :
    ((∀ unnamed reader dependent, Writes nodes unnamed "" → Reads nodes reader "" →
        Relation.ReflTransGen (Supplies (nodes.map NodeRecord.named)) reader dependent →
        unnamed ≤ dependent) →
      visitOrder (nodes.map NodeRecord.named) = visitOrder nodes) ∧
    (InOrder (nodes.map NodeRecord.named) →
      (visitOrder (nodes.map NodeRecord.named) = visitOrder nodes ↔
        ∀ unnamed reader, Writes nodes unnamed "" → Reads nodes reader "" → unnamed ≤ reader)) := by
  refine ⟨visitOrder_named_of_le, fun inOrder => ⟨fun same unnamed reader writes reads => ?_,
    fun later => visitOrder_named_of_le fun unnamed reader dependent writes reads depends => ?_⟩⟩
  · by_contra before
    rw [visitOrder_named_of_inOrder inOrder] at same
    exact visitOrder_ne_range inOrder writes reads (Nat.lt_of_not_le before) same.symm
  · have ascends : reader ≤ dependent := by
      induction depends with
      | refl => exact Nat.le_refl _
      | tail _ supplies ih => exact Nat.le_trans ih (Nat.le_of_lt (inOrder _ _ supplies))
    exact Nat.le_trans (later unnamed reader writes reads) ascends

/-- A node that leaves out an input, and a node that reads its output and leaves out an output. -/
def clipped : List NodeRecord :=
  [ { name := "clip", op := "Clip", inputs := ["x", ""], outputs := ["a"] },
    { name := "drop", op := "Dropout", inputs := ["a"], outputs := ["b", ""] } ]

/-- The two nodes are in order, and the empty name turns them round. In the other order it makes no
difference. -/
theorem visitOrder_named_clipped :
    InOrder (clipped.map NodeRecord.named) ∧ Supplies clipped 0 1 ∧
      visitOrder (clipped.map NodeRecord.named) ≠ visitOrder clipped ∧
      visitOrder clipped = [1, 0] ∧
      visitOrder (clipped.reverse.map NodeRecord.named) = visitOrder clipped.reverse := by
  have single : SingleProducer (clipped.map NodeRecord.named) :=
    singleProducer_of_table (by decide +kernel)
  have inOrder : InOrder (clipped.map NodeRecord.named) :=
    fun _ _ => relation_of_supplies single (by decide +kernel)
  have writes : Writes clipped 1 "" := ⟨_, rfl, by decide⟩
  have reads : Reads clipped 0 "" := ⟨_, rfl, by decide⟩
  have first : (producerTable clipped.reverse).get? "" = some 0 := by decide +kernel
  refine ⟨inOrder, ⟨"a", ⟨_, rfl, by decide⟩, _, rfl, by decide⟩, fun same => ?_,
    by decide +kernel, (visitOrder_named clipped.reverse).1 ?_⟩
  · exact absurd (((visitOrder_named clipped).2 inOrder).mp same 1 0 writes reads) (by decide)
  · intro unnamed reader dependent written _ _
    have least := (get?_producerTable_eq_some_iff.mp first).2 unnamed written
    exact Nat.le_trans least (Nat.zero_le dependent)

end StaticNet.Onnx
