import Mathlib.Data.Finset.Card
import Mathlib.Logic.Relation
import StaticNet.Proofs.Graph.Coherence

/-! # What a graph computes

A graph gives every tensor a value: a constant has its own, a declared input is given, and the
output of a node is what its operator makes of the values of its inputs. The operators are a
parameter. A tensor without any source is valued like an input. In an acyclic graph the value of a
tensor satisfies this description, and it is the only value that does.
-/

namespace StaticNet

/-- What the operators compute: an operator with its attributes and inputs, of which some may be
absent, has a value at every output position. -/
abbrev Interpretation := String → Attributes → List (Option Tensor) → Nat → Tensor

namespace Node

/-- The values of the inputs of a node. -/
def arguments (node : Node) (values : String → Tensor) : List (Option Tensor) :=
  node.inputs.map fun tensor => if tensor = "" then none else some (values tensor)

/-- What a node computes for one of its outputs. -/
def result (node : Node) (operators : Interpretation) (values : String → Tensor)
    (tensor : String) : Tensor :=
  operators node.op node.attributes (node.arguments values) (node.outputs.idxOf tensor)

theorem arguments_congr {node : Node} {first second : String → Tensor}
    (agree : ∀ tensor ∈ node.reads, first tensor = second tensor) :
    node.arguments first = node.arguments second := by
  refine List.map_congr_left fun tensor member => ?_
  split
  · rfl
  · next present => rw [agree tensor (List.mem_filter.mpr ⟨member, decide_eq_true present⟩)]

theorem arguments_of_first {node : Node} (values : String → Tensor) (present : node.input 0 ≠ "") :
    ∃ rest, node.arguments values = some (values (node.input 0)) :: rest := by
  unfold input at present ⊢
  unfold arguments
  cases inputs : node.inputs with
  | nil => simp [inputs] at present
  | cons first rest =>
    simp only [inputs, List.getD_cons_zero] at present ⊢
    exact ⟨_, by rw [List.map_cons, if_neg present]⟩

theorem arguments_of_second {node : Node} (values : String → Tensor)
    (firstPresent : node.input 0 ≠ "") (present : node.input 1 ≠ "") :
    ∃ rest, node.arguments values =
      some (values (node.input 0)) :: some (values (node.input 1)) :: rest := by
  unfold input at firstPresent present ⊢
  unfold arguments
  match inputs : node.inputs with
  | [] => simp [inputs] at present
  | [_] => simp [inputs] at present
  | first :: second :: rest =>
    simp only [inputs, List.getD_cons_zero, List.getD_cons_succ] at firstPresent present ⊢
    exact ⟨_, by rw [List.map_cons, if_neg firstPresent, List.map_cons, if_neg present]⟩

theorem reads_of_first {node : Node} (present : node.input 0 ≠ "") : node.input 0 ∈ node.reads := by
  unfold input at present ⊢
  unfold reads
  cases inputs : node.inputs with
  | nil => simp [inputs] at present
  | cons first rest =>
    simp only [inputs, List.getD_cons_zero] at present ⊢
    exact List.mem_filter.mpr ⟨List.mem_cons_self .., decide_eq_true present⟩

theorem writes_of_first {node : Node} (present : node.output 0 ≠ "") :
    node.output 0 ∈ node.writes ∧ node.outputs.idxOf (node.output 0) = 0 ∧
      node.outputs = node.output 0 :: node.outputs.drop 1 := by
  unfold output at present ⊢
  unfold writes
  cases outputs : node.outputs with
  | nil => simp [outputs] at present
  | cons first rest =>
    simp only [outputs, List.getD_cons_zero] at present ⊢
    refine ⟨List.mem_filter.mpr ⟨List.mem_cons_self .., decide_eq_true present⟩,
      List.idxOf_cons_self, rfl⟩

theorem Like.result {node other : Node} (alike : node.Like other) (operators : Interpretation)
    (values : String → Tensor) : node.result operators values = other.result operators values :=
  alike.congr (fun node => node.result operators values) fun _ => rfl

end Node

namespace Graph

variable (operators : Interpretation) (given : String → Tensor)

/-! ## Evaluation -/

/-- The first live node that writes a tensor. -/
def writer? (graph : Graph) (tensor : String) : Option Node :=
  graph.live.find? fun node => node.writes.contains tensor

theorem mem_of_writer? {graph : Graph} {tensor : String} {node : Node}
    (found : graph.writer? tensor = some node) : node ∈ graph.live ∧ tensor ∈ node.writes := by
  rw [writer?] at found
  have written := List.find?_some found
  exact ⟨List.mem_of_find?_eq_some found, List.contains_iff_mem.mp written⟩

theorem writer?_ne_none {graph : Graph} {tensor : String} {node : Node}
    (member : node ∈ graph.live) (written : tensor ∈ node.writes) :
    graph.writer? tensor ≠ none := by
  intro unwritten
  exact List.find?_eq_none.mp unwritten node member (List.contains_iff_mem.mpr written)

/-- The value of a tensor, given the values of the tensors that it is computed from. -/
def derive (graph : Graph) (values : String → Tensor) (tensor : String) : Tensor :=
  match graph.constants.get? tensor with
  | some value => value
  | none =>
      if graph.isInput tensor then given tensor
      else
        match graph.writer? tensor with
        | some node => node.result operators values tensor
        | none => given tensor

/-- The value of a tensor as far as a number of derivations tells. -/
def valueWithin (graph : Graph) : Nat → String → Tensor
  | 0 => given
  | depth + 1 => graph.derive operators given (valueWithin graph depth)

/-- The value of a tensor. A chain of derivations is no longer than the number of nodes. -/
def value (graph : Graph) : String → Tensor :=
  graph.valueWithin operators given (graph.size + 1)

/-! ## Order of derivation -/

/-- A node computes the second tensor from the first. -/
def Feeds (graph : Graph) (source target : String) : Prop :=
  ∃ node ∈ graph.live, source ∈ node.reads ∧ target ∈ node.writes

/-- No tensor is computed from itself. -/
def Acyclic (graph : Graph) : Prop := ∀ tensor, ¬ Relation.TransGen graph.Feeds tensor tensor

/-- A graph is acyclic when every node writes to higher levels than it reads from. -/
theorem acyclic_of_level {graph : Graph} (level : String → Nat)
    (rises : ∀ node ∈ graph.live, ∀ source ∈ node.reads, ∀ target ∈ node.writes,
      level source < level target) : graph.Acyclic := by
  intro tensor cycle
  have higher : ∀ target, Relation.TransGen graph.Feeds tensor target →
      level tensor < level target := by
    intro target path
    induction path with
    | single feeds =>
      obtain ⟨node, member, read, written⟩ := feeds
      exact rises node member _ read _ written
    | tail _ feeds ih =>
      obtain ⟨node, member, read, written⟩ := feeds
      exact ih.trans (rises node member _ read _ written)
  exact Nat.lt_irrefl _ (higher tensor cycle)

/-- A node takes part in the computation of a tensor. -/
def TakesPart (graph : Graph) (node : Node) (tensor : String) : Prop :=
  ∃ written ∈ node.writes, Relation.ReflTransGen graph.Feeds written tensor

open Classical in
/-- The number of nodes that take part in the computation of a tensor. -/
noncomputable def rank (graph : Graph) (tensor : String) : Nat :=
  (graph.live.toFinset.filter fun node => graph.TakesPart node tensor).card

variable {operators given} {graph : Graph}

theorem rank_le_size (tensor : String) : graph.rank tensor ≤ graph.size := by
  classical
  exact (Finset.card_filter_le _ _).trans (List.toFinset_card_le _)

theorem rank_lt (acyclic : graph.Acyclic) {source target : String}
    (feeds : graph.Feeds source target) : graph.rank source < graph.rank target := by
  classical
  obtain ⟨node, member, read, written⟩ := feeds
  have step : graph.Feeds source target := ⟨node, member, read, written⟩
  have absent : ¬ graph.TakesPart node source := by
    rintro ⟨other, otherWritten, path⟩
    exact acyclic source (.head' ⟨node, member, read, otherWritten⟩ path)
  refine Finset.card_lt_card ⟨?_, ?_⟩
  · intro other inside
    obtain ⟨otherMember, first, firstWritten, path⟩ := Finset.mem_filter.mp inside
    exact Finset.mem_filter.mpr ⟨otherMember, first, firstWritten, path.tail step⟩
  · intro backwards
    have inside : node ∈ graph.live.toFinset.filter fun node => graph.TakesPart node target :=
      Finset.mem_filter.mpr ⟨List.mem_toFinset.mpr member, target, written, .refl⟩
    exact absent (Finset.mem_filter.mp (backwards inside)).2

/-! ## The value as a solution -/

theorem derive_congr {first second : String → Tensor} {tensor : String}
    (agree : ∀ source, graph.Feeds source tensor → first source = second source) :
    graph.derive operators given first tensor = graph.derive operators given second tensor := by
  unfold derive
  split
  · rfl
  · split
    · rfl
    · split
      · next node found =>
        obtain ⟨member, written⟩ := mem_of_writer? found
        have arguments : node.arguments first = node.arguments second :=
          Node.arguments_congr fun source read => agree source ⟨node, member, read, written⟩
        rw [Node.result, arguments, Node.result]
      · rfl

/-- Derivations deeper than the rank of a tensor do not change its value. -/
theorem valueWithin_stable (acyclic : graph.Acyclic) {depth other : Nat} {tensor : String}
    (deep : graph.rank tensor < depth) (otherDeep : graph.rank tensor < other) :
    graph.valueWithin operators given depth tensor =
      graph.valueWithin operators given other tensor := by
  induction depth generalizing tensor other with
  | zero => omega
  | succ depth ih =>
    obtain ⟨other, rfl⟩ : ∃ less, other = less + 1 := ⟨other - 1, by omega⟩
    refine derive_congr fun source feeds => ih ?_ ?_
    · have less := rank_lt acyclic feeds
      omega
    · have less := rank_lt acyclic feeds
      omega

theorem value_eq_derive (acyclic : graph.Acyclic) (tensor : String) :
    graph.value operators given tensor =
      graph.derive operators given (graph.value operators given) tensor := by
  have bound : graph.rank tensor ≤ graph.size := rank_le_size tensor
  have deeper : graph.value operators given tensor =
      graph.valueWithin operators given (graph.size + 2) tensor :=
    valueWithin_stable acyclic (by omega) (by omega)
  exact deeper

/-- A tensor is declared as an output or read by a live node. -/
def Uses (graph : Graph) (tensor : String) : Prop :=
  graph.isOutput tensor = true ∨ ∃ node ∈ graph.live, tensor ∈ node.reads

/-- Values that a graph describes: those of its constants and its inputs, those that its nodes
compute, and the given one for a tensor in use that nothing else determines. -/
structure Solves (operators : Interpretation) (given : String → Tensor) (graph : Graph)
    (values : String → Tensor) : Prop where
  constants : ∀ tensor value, graph.constants.get? tensor = some value → values tensor = value
  inputs : ∀ tensor, graph.isInput tensor = true → values tensor = given tensor
  nodes : ∀ node ∈ graph.live, ∀ tensor ∈ node.writes,
    values tensor = node.result operators values tensor
  sources : ∀ tensor, graph.Uses tensor → graph.isConstant tensor = true ∨
    (∃ node ∈ graph.live, tensor ∈ node.writes) ∨ values tensor = given tensor

namespace Solves

variable {values : String → Tensor}

theorem eq_derive (solves : Solves operators given graph values) {tensor : String}
    (used : graph.Uses tensor) : values tensor = graph.derive operators given values tensor := by
  unfold derive
  split
  · next value known => exact solves.constants tensor value known
  · next unknown =>
    split
    · next isInput => exact solves.inputs tensor isInput
    · split
      · next node found =>
        obtain ⟨member, written⟩ := mem_of_writer? found
        exact solves.nodes node member tensor written
      · next unwritten =>
        rcases solves.sources tensor used with known | ⟨node, member, written⟩ | same
        · rw [isConstant_eq_false_iff.mpr unknown] at known
          cases known
        · exact absurd unwritten (writer?_ne_none member written)
        · exact same

/-- An acyclic graph determines the values of the tensors in use. -/
theorem value_eq (solves : Solves operators given graph values) (acyclic : graph.Acyclic)
    {tensor : String} (used : graph.Uses tensor) :
    graph.value operators given tensor = values tensor := by
  induction ranked : graph.rank tensor using Nat.strong_induction_on generalizing tensor with
  | _ rank ih =>
    rw [value_eq_derive acyclic, solves.eq_derive used]
    refine derive_congr fun source feeds => ?_
    have less := rank_lt acyclic feeds
    obtain ⟨node, member, read, -⟩ := feeds
    exact ih _ (ranked ▸ less) (.inr ⟨node, member, read⟩) rfl

end Solves

/-- No output of a node is an initializer or an input, and no initializer is nameless. -/
structure SingleAssignment (graph : Graph) : Prop where
  unset : ∀ node ∈ graph.live, ∀ tensor ∈ node.writes,
    graph.isConstant tensor = false ∧ graph.isInput tensor = false
  named : graph.isConstant "" = false

/-- The values of an acyclic graph are values that it describes. -/
theorem Built.solves_value {spec : GraphSpec} (built : Built spec graph) (acyclic : graph.Acyclic)
    (single : graph.SingleAssignment) :
    Solves operators given graph (graph.value operators given) := by
  constructor
  · intro tensor value known
    rw [value_eq_derive acyclic, derive, known]
  · intro tensor isInput
    rw [value_eq_derive acyclic, derive, built.inputs tensor isInput]
    simp only [isInput, if_true]
  · intro node member tensor written
    obtain ⟨unknown, notInput⟩ := single.unset node member tensor written
    obtain ⟨writer, found⟩ := Option.ne_none_iff_exists'.mp (writer?_ne_none member written)
    obtain ⟨writerMember, writerWrites⟩ := mem_of_writer? found
    have sameId := built.writers writer writerMember node member tensor writerWrites written
    have same := built.placed.eq_of_id writerMember member sameId
    rw [value_eq_derive acyclic, derive, isConstant_eq_false_iff.mp unknown]
    simp only [notInput, Bool.false_eq_true, if_false, found, same]
  · intro tensor used
    rw [value_eq_derive acyclic, derive]
    split
    · next value known => exact .inl (isConstant_iff.mpr ⟨value, known⟩)
    · split
      · exact .inr (.inr rfl)
      · split
        · next node found =>
          exact .inr (.inl ⟨node, mem_of_writer? found⟩)
        · exact .inr (.inr rfl)

end Graph

end StaticNet
