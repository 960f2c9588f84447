import Mathlib.Data.List.Induction
import StaticNet.Proofs.Dict
import StaticNet.Proofs.Onnx.Exploration

/-! # Producers come first

Nodes are listed anew, each of them once. When every tensor has one producer and no node depends on
itself, every node comes after the producers of its inputs, and a list in which that is so already
is left as it is.
-/

namespace StaticNet.Onnx

variable {nodes : List NodeRecord}

/-! ## Writers and readers by position -/

/-- The node at a position lists a tensor among its outputs. -/
def Writes (nodes : List NodeRecord) (position : Nat) (tensor : String) : Prop :=
  ∃ node, nodes[position]? = some node ∧ tensor ∈ node.outputs

/-- The node at a position lists a tensor among its inputs. -/
def Reads (nodes : List NodeRecord) (position : Nat) (tensor : String) : Prop :=
  ∃ node, nodes[position]? = some node ∧ tensor ∈ node.inputs

/-- The node at the second position reads a tensor that the node at the first one writes. -/
def Supplies (nodes : List NodeRecord) (producer reader : Nat) : Prop :=
  ∃ tensor, Writes nodes producer tensor ∧ Reads nodes reader tensor

/-- Every node comes after the producers of all its inputs. -/
def InOrder (nodes : List NodeRecord) : Prop :=
  ∀ producer reader, Supplies nodes producer reader → producer < reader

/-- No tensor is an output of two nodes. -/
def SingleProducer (nodes : List NodeRecord) : Prop :=
  ∀ first second tensor, Writes nodes first tensor → Writes nodes second tensor → first = second

/-- No node depends on itself, directly or not. -/
def Acyclic (nodes : List NodeRecord) : Prop :=
  ∀ position, ¬ Relation.TransGen (Supplies nodes) position position

theorem Writes.lt_length {position : Nat} {tensor : String}
    (writes : Writes nodes position tensor) : position < nodes.length := by
  obtain ⟨node, found, -⟩ := writes
  exact (List.getElem?_eq_some_iff.mp found).1

theorem writes_append_iff {node : NodeRecord} {position : Nat} {tensor : String} :
    Writes (nodes ++ [node]) position tensor ↔
      Writes nodes position tensor ∨ position = nodes.length ∧ tensor ∈ node.outputs := by
  constructor
  · rintro ⟨writer, found, listed⟩
    rw [List.getElem?_append] at found
    split at found
    · exact .inl ⟨writer, found, listed⟩
    · next outside =>
      rw [List.getElem?_singleton] at found
      obtain ⟨last, ⟨⟩⟩ := Option.ite_none_right_eq_some.mp found
      exact .inr ⟨by omega, listed⟩
  · rintro (⟨writer, found, listed⟩ | ⟨rfl, listed⟩)
    · have inside := (List.getElem?_eq_some_iff.mp found).1
      exact ⟨writer, (List.getElem?_append_left inside).trans found, listed⟩
    · exact ⟨node, List.getElem?_concat_length, listed⟩

/-! ## The table of producers -/

private theorem get?_ofList_const (outputs : List String) (position : Nat) (tensor : String) :
    (Dict.ofList (outputs.map fun output => (output, position))).get? tensor =
      if tensor ∈ outputs then some position else none := by
  induction outputs with
  | nil => rfl
  | cons output rest ih =>
    rw [List.map_cons, ← List.singleton_append, Dict.get?_ofList_append, ih, Dict.ofList,
      List.foldl_cons, List.foldl_nil, Dict.get?_insert, Dict.get?_empty]
    by_cases later : tensor ∈ rest
    · simp [later]
    · simp [later]

theorem get?_producerTable_append (nodes : List NodeRecord) (node : NodeRecord) (tensor : String) :
    (producerTable (nodes ++ [node])).get? tensor =
      if tensor ∈ node.outputs then some nodes.length else (producerTable nodes).get? tensor := by
  rw [producerTable, List.zipIdx_append, List.flatMap_append, Dict.get?_ofList_append,
    ← producerTable]
  simp only [List.zipIdx_singleton, List.flatMap_singleton, get?_ofList_const]
  split
  · rw [Option.some_or, Nat.zero_add]
  · rw [Option.none_or]

/-- The producer of a tensor is the last node that writes it. -/
theorem get?_producerTable_eq_some_iff {tensor : String} {position : Nat} :
    (producerTable nodes).get? tensor = some position ↔
      Writes nodes position tensor ∧ ∀ other, Writes nodes other tensor → other ≤ position := by
  induction nodes using List.reverseRecOn with
  | nil => simp [producerTable, Dict.ofList, Writes]
  | append_singleton nodes node ih =>
    rw [get?_producerTable_append]
    simp only [writes_append_iff]
    split
    · next last =>
      constructor
      · rintro ⟨⟩
        refine ⟨.inr ⟨rfl, last⟩, ?_⟩
        rintro other (earlier | ⟨rfl, -⟩)
        · exact Nat.le_of_lt earlier.lt_length
        · exact Nat.le_refl _
      · rintro ⟨writes, greatest⟩
        have least := greatest nodes.length (.inr ⟨rfl, last⟩)
        rcases writes with earlier | ⟨rfl, -⟩
        · exact absurd earlier.lt_length (Nat.not_lt.mpr least)
        · rfl
    · next absent =>
      rw [ih]
      simp only [absent, and_false, or_false]

theorem exists_producer {position : Nat} {tensor : String}
    (writes : Writes nodes position tensor) :
    ∃ last, (producerTable nodes).get? tensor = some last ∧ position ≤ last := by
  have listed : ((producerTable nodes).get? tensor).isSome := by
    induction nodes using List.reverseRecOn with
    | nil => simp [Writes] at writes
    | append_singleton nodes node ih =>
      rw [get?_producerTable_append]
      split
      · rfl
      · next absent =>
        exact ih ((writes_append_iff.mp writes).resolve_right fun own => absent own.2)
  obtain ⟨last, found⟩ := Option.isSome_iff_exists.mp listed
  exact ⟨last, found, (get?_producerTable_eq_some_iff.mp found).2 position writes⟩

theorem mem_suppliers_iff {producers : Dict Nat} {reader supplier : Nat} :
    supplier ∈ suppliers producers nodes reader ↔
      ∃ tensor, Reads nodes reader tensor ∧ producers.get? tensor = some supplier := by
  rw [suppliers, List.mem_filterMap]
  refine exists_congr fun tensor => and_congr_left fun _ => ?_
  rw [Reads]
  cases nodes[reader]? with
  | none => simp
  | some node => simp

theorem supplies_of_mem_suppliers {reader supplier : Nat}
    (asked : supplier ∈ suppliers (producerTable nodes) nodes reader) :
    Supplies nodes supplier reader := by
  obtain ⟨tensor, reads, produced⟩ := mem_suppliers_iff.mp asked
  exact ⟨tensor, (get?_producerTable_eq_some_iff.mp produced).1, reads⟩

theorem mem_suppliers_of_supplies (single : SingleProducer nodes) {reader producer : Nat}
    (supplies : Supplies nodes producer reader) :
    producer ∈ suppliers (producerTable nodes) nodes reader := by
  obtain ⟨tensor, writes, reads⟩ := supplies
  exact mem_suppliers_iff.mpr ⟨tensor, reads, get?_producerTable_eq_some_iff.mpr
    ⟨writes, fun other again => Nat.le_of_eq (single other producer tensor again writes)⟩⟩

/-! ## The order of visits -/

/-- The visiting order is that of a search through all positions. -/
theorem explores_visitOrder (nodes : List NodeRecord) :
    ∃ final, Explores (suppliers (producerTable nodes) nodes) .start (List.range nodes.length)
      final ∧ final.Within nodes.length ∧ visitOrder nodes = final.finished.reverse := by
  have bounded : ∀ position, ∀ supplier ∈ suppliers (producerTable nodes) nodes position,
      supplier < nodes.length := by
    intro position supplier asked
    obtain ⟨tensor, writes, -⟩ := supplies_of_mem_suppliers asked
    exact writes.lt_length
  have below : ∀ position ∈ List.range nodes.length, position < nodes.length :=
    fun position member => List.mem_range.mp member
  have start : Visit.start.Within nodes.length := ⟨List.nodup_nil, by simp [Visit.start]⟩
  have run := Explores.of_visitNodes bounded below start (Nat.lt_succ_self _)
  exact ⟨_, run, run.within bounded below start, rfl⟩

/-- Every position is visited once. -/
theorem perm_visitOrder (nodes : List NodeRecord) :
    (visitOrder nodes).Perm (List.range nodes.length) := by
  obtain ⟨final, run, within, same⟩ := explores_visitOrder nodes
  obtain ⟨added, finished, visited⟩ := run.grows
  rw [Visit.start, List.append_nil] at finished visited
  have whole : final.visited.Perm (List.range nodes.length) := by
    refine (List.perm_ext_iff_of_nodup within.nodup List.nodup_range).mpr fun position => ?_
    exact ⟨fun member => List.mem_range.mpr (within.below position member),
      fun member => run.covers member⟩
  rw [same, finished]
  exact (List.reverse_perm added).trans (visited.symm.trans whole)

theorem visitOrder_eq_range
    (smaller : ∀ position < nodes.length,
      ∀ supplier ∈ suppliers (producerTable nodes) nodes position, supplier < position) :
    visitOrder nodes = List.range nodes.length := by
  obtain ⟨final, run, -, same⟩ := explores_visitOrder nodes
  rw [same, run.unique (Explores.ascending smaller), List.reverse_reverse]

/-- When no node depends on itself, what a node asks for is visited before it. -/
theorem before_of_mem_suppliers (acyclic : Acyclic nodes) {index reader supplier : Nat}
    (found : (visitOrder nodes)[index]? = some reader)
    (asked : supplier ∈ suppliers (producerTable nodes) nodes reader) :
    ∃ before < index, (visitOrder nodes)[before]? = some supplier := by
  obtain ⟨final, run, -, same⟩ := explores_visitOrder nodes
  have noCycle : ∀ position, ¬ Relation.TransGen (fun reader supplier =>
      supplier ∈ suppliers (producerTable nodes) nodes reader) position position := by
    intro position cycle
    refine acyclic position (Relation.transGen_swap.mp (Relation.TransGen.mono ?_ _ _ cycle))
    exact fun _ _ asked => supplies_of_mem_suppliers asked
  have settled := run.settled noCycle trivial (by simp [Visit.start])
  rw [same] at found ⊢
  exact settled.getElem?_reverse found asked

/-! ## Nodes in visiting order -/

private theorem filterMap_getElem?_range (nodes : List NodeRecord) :
    (List.range nodes.length).filterMap (fun position => nodes[position]?) = nodes := by
  induction nodes using List.reverseRecOn with
  | nil => rfl
  | append_singleton nodes node ih =>
    have earlier :
        (List.range nodes.length).filterMap (fun position => (nodes ++ [node])[position]?) =
          (List.range nodes.length).filterMap fun position => nodes[position]? :=
      List.filterMap_congr fun position member =>
        List.getElem?_append_left (List.mem_range.mp member)
    rw [List.length_append, List.length_singleton, List.range_succ, List.filterMap_append, earlier,
      ih, List.filterMap_cons_some List.getElem?_concat_length, List.filterMap_nil]

private theorem getElem?_filterMap {order : List Nat}
    (inside : ∀ position ∈ order, position < nodes.length) (index : Nat) :
    (order.filterMap fun position => nodes[position]?)[index]? =
      order[index]?.bind fun position => nodes[position]? := by
  induction order generalizing index with
  | nil => rfl
  | cons position rest ih =>
    obtain ⟨first, others⟩ := List.forall_mem_cons.mp inside
    rw [List.filterMap_cons_some (List.getElem?_eq_getElem first)]
    cases index with
    | zero => exact (List.getElem?_eq_getElem first).symm
    | succ index => exact ih others index

theorem getElem?_inDependencyOrder (index : Nat) :
    (inDependencyOrder nodes)[index]? =
      (visitOrder nodes)[index]?.bind fun position => nodes[position]? :=
  getElem?_filterMap (fun _ member =>
    List.mem_range.mp ((perm_visitOrder nodes).mem_iff.mp member)) index

/-- The nodes are listed anew, each of them once, also when they depend on themselves. When every
tensor has one producer and no node depends on itself, every node comes after the producers of all
its inputs. Nodes for which that is so already stay in place. -/
theorem inDependencyOrder_spec (nodes : List NodeRecord) :
    (inDependencyOrder nodes).Perm nodes ∧
      (SingleProducer nodes → Acyclic nodes → InOrder (inDependencyOrder nodes)) ∧
      (InOrder nodes → inDependencyOrder nodes = nodes) := by
  refine ⟨?_, fun single acyclic => ?_, fun inOrder => ?_⟩
  · exact ((perm_visitOrder nodes).filterMap _).trans (.of_eq (filterMap_getElem?_range nodes))
  · rintro first second ⟨tensor, ⟨producer, atFirst, written⟩, reader, atSecond, read⟩
    rw [getElem?_inDependencyOrder, Option.bind_eq_some_iff] at atFirst atSecond
    obtain ⟨source, visitedFirst, isProducer⟩ := atFirst
    obtain ⟨target, visitedSecond, isReader⟩ := atSecond
    have asked : source ∈ suppliers (producerTable nodes) nodes target :=
      mem_suppliers_of_supplies single
        ⟨tensor, ⟨producer, isProducer, written⟩, reader, isReader, read⟩
    obtain ⟨before, less, same⟩ := before_of_mem_suppliers acyclic visitedSecond asked
    have distinct : (visitOrder nodes).Nodup :=
      (perm_visitOrder nodes).nodup_iff.mpr List.nodup_range
    have inside := (List.getElem?_eq_some_iff.mp same).1
    obtain rfl := (List.getElem?_inj inside distinct).mp (same.trans visitedFirst.symm)
    exact less
  · have visited := visitOrder_eq_range fun position _ supplier asked =>
      inOrder supplier position (supplies_of_mem_suppliers asked)
    rw [inDependencyOrder, visited]
    exact filterMap_getElem?_range nodes

/-! ## Nodes out of order -/

/-- Tensors have one producer each if every output is listed in the table for its own node. -/
theorem singleProducer_of_table
    (own : ∀ position < nodes.length, ∀ node ∈ nodes[position]?, ∀ tensor ∈ node.outputs,
      (producerTable nodes).get? tensor = some position) : SingleProducer nodes := by
  intro first second tensor writesFirst writesSecond
  have here {position : Nat} (writes : Writes nodes position tensor) :
      (producerTable nodes).get? tensor = some position := by
    obtain ⟨node, found, written⟩ := id writes
    exact own position writes.lt_length node found tensor written
  exact Option.some.inj ((here writesFirst).symm.trans (here writesSecond))

/-- With one producer for each tensor, what holds of all entries of the table holds of all nodes
that supply others. -/
theorem relation_of_supplies (single : SingleProducer nodes) {relation : Nat → Nat → Prop}
    (listed : ∀ reader < nodes.length,
      ∀ supplier ∈ suppliers (producerTable nodes) nodes reader, relation supplier reader)
    {producer reader : Nat} (supplies : Supplies nodes producer reader) :
    relation producer reader := by
  obtain ⟨-, -, node, found, -⟩ := id supplies
  exact listed reader (List.getElem?_eq_some_iff.mp found).1 producer
    (mem_suppliers_of_supplies single supplies)

/-- Nodes do not depend on themselves if every node has a higher level than its suppliers. -/
theorem acyclic_of_level (single : SingleProducer nodes) (level : Nat → Nat)
    (rises : ∀ reader < nodes.length, ∀ supplier ∈ suppliers (producerTable nodes) nodes reader,
      level supplier < level reader) : Acyclic nodes := by
  have higher {first last : Nat} (path : Relation.TransGen (Supplies nodes) first last) :
      level first < level last := by
    induction path with
    | single supplies => exact relation_of_supplies single rises supplies
    | tail _ supplies ih => exact Nat.lt_trans ih (relation_of_supplies single rises supplies)
  exact fun position cycle => Nat.lt_irrefl _ (higher cycle)

/-- Four nodes, two of which stand in front of the producer of an input. -/
def crossed : List NodeRecord :=
  [ { name := "c", inputs := ["b_out"], outputs := ["c_out"] },
    { name := "a", inputs := ["input", ""], outputs := ["a_out"] },
    { name := "d", inputs := ["b_out", "a_out"], outputs := ["d_out"] },
    { name := "b", inputs := ["a_out"], outputs := ["b_out"] } ]

/-- The nodes are brought in order, and then they stay in place. -/
theorem inDependencyOrder_spec_crossed :
    (inDependencyOrder crossed).map NodeRecord.name = ["a", "b", "c", "d"] ∧
      InOrder (inDependencyOrder crossed) ∧
      inDependencyOrder (inDependencyOrder crossed) = inDependencyOrder crossed := by
  have single : SingleProducer crossed := singleProducer_of_table (by decide +kernel)
  have acyclic : Acyclic crossed :=
    acyclic_of_level single (fun position => [2, 0, 2, 1].getD position 0) (by decide +kernel)
  have inOrder := (inDependencyOrder_spec crossed).2.1 single acyclic
  exact ⟨by decide +kernel, inOrder, (inDependencyOrder_spec _).2.2 inOrder⟩

end StaticNet.Onnx
