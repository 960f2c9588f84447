import StaticNet.Proofs.Program.Lowering
import StaticNet.Proofs.Simplification.Sources

/-! # Orders that can be scheduled

A graph has a schedule, once its nodes have layers, exactly when every input of a live node is a
graph input, a constant, or an output of a node before it. Folding constants and bypassing nodes
keep such an order in every graph in which no node writes an input or a constant. So no node is
left to read a tensor whose producer has gone, unless the tensor has become a constant.
-/

namespace StaticNet

namespace Schedule

variable {graph : Graph} {layer? : Nat → Option Layer}

/-- Whatever layers the live nodes have, the graph has a schedule. -/
def Schedulable (graph : Graph) : Prop :=
  ∀ layer? : Nat → Option Layer, (∀ node ∈ graph.live, (layer? node.id).isSome = true) →
    ∃ tasks, ofGraph graph layer? = .ok tasks

/-- Every input of every node has a source among the tensors that are available from the start, the
constants, and the outputs of the nodes before it. -/
def OrderedFrom (graph : Graph) (available : List String) (nodes : List Node) : Prop :=
  ∀ earlier node later, nodes = earlier ++ node :: later →
    ∀ tensor ∈ node.inputs, Source graph available earlier node tensor

/-! ## Which lists of nodes have a schedule -/

theorem missingInput?_eq_none_iff {available : List String} {node : Node} :
    missingInput? graph available node = none ↔
      ∀ tensor ∈ node.inputs, Source graph available [] node tensor := by
  refine ⟨fun complete _ read => source_of_missingInput? complete read, fun sourced => ?_⟩
  refine List.find?_eq_none.mpr fun tensor read => ?_
  cases sourced tensor read with
  | absent same => simp [same]
  | attached known => simp [known]
  | constant known => simp [known]
  | given listed => simp [listed]
  | produced producer listed _ => cases listed

theorem source_shift_iff {available : List String} {first node : Node} {nodes : List Node}
    {tensor : String} :
    Source graph available (first :: nodes) node tensor ↔
      Source graph (first.writes ++ available) nodes node tensor := by
  refine ⟨fun source => ?_, Source.shift⟩
  cases source with
  | absent same => exact .absent same
  | attached known => exact .attached known
  | constant known => exact .constant known
  | given listed => exact .given (List.mem_append_right _ listed)
  | produced producer listed wrote =>
    by_cases absent : tensor = ""
    · exact .absent absent
    rcases List.mem_cons.mp listed with rfl | later
    · exact .given (List.mem_append_left _ (Node.mem_writes_iff.mpr ⟨wrote, absent⟩))
    · exact .produced producer later wrote

theorem orderedFrom_cons_iff {available : List String} {first : Node} {rest : List Node} :
    OrderedFrom graph available (first :: rest) ↔
      missingInput? graph available first = none ∧
        OrderedFrom graph (first.writes ++ available) rest := by
  rw [missingInput?_eq_none_iff]
  constructor
  · refine fun ordered => ⟨ordered [] first rest rfl, fun earlier node later split tensor read => ?_⟩
    exact source_shift_iff.mp (ordered (first :: earlier) node later (congrArg _ split) tensor read)
  · rintro ⟨complete, ordered⟩ earlier node later split tensor read
    cases earlier with
    | nil =>
      cases split
      exact complete tensor read
    | cons _ earlier =>
      cases split
      exact source_shift_iff.mpr (ordered earlier node later rfl tensor read)

theorem ofNodes_isOk_iff (step : Nat) (available : List String) (nodes : List Node) :
    (∃ tasks, ofNodes graph layer? step available nodes = .ok tasks) ↔
      OrderedFrom graph available nodes ∧ ∀ node ∈ nodes, (layer? node.id).isSome = true := by
  induction nodes generalizing step available with
  | nil => simp [ofNodes, OrderedFrom]
  | cons node rest ih =>
    have others := ih (step + 1) (node.writes ++ available)
    rw [orderedFrom_cons_iff, List.forall_mem_cons, ofNodes]
    cases missing : missingInput? graph available node with
    | some tensor => simp
    | none =>
      cases chosen : layer? node.id with
      | none => simp
      | some layer =>
        simp only [true_and, Option.isSome_some, ← others, Outcome.bind_eq_ok_iff]
        constructor
        · rintro ⟨_, tasks, done, -⟩
          exact ⟨tasks, done⟩
        · rintro ⟨tasks, done⟩
          exact ⟨_, tasks, done, rfl⟩

theorem schedulable_iff :
    Schedulable graph ↔ OrderedFrom graph (graph.inputs.map Edge.id) graph.live := by
  constructor
  · intro schedulable
    have found := schedulable (fun _ => some ⟨"", "", "", .object "" .globalMaxPool⟩) fun _ _ => rfl
    exact ((ofNodes_isOk_iff 0 _ _).mp found).1
  · exact fun ordered layer? chosen => (ofNodes_isOk_iff 0 _ _).mpr ⟨ordered, chosen⟩

theorem schedulable_of_ofGraph {tasks : List Task} (done : ofGraph graph layer? = .ok tasks) :
    Schedulable graph :=
  schedulable_iff.mpr ((ofNodes_isOk_iff 0 _ _).mp ⟨tasks, done⟩).1

/-! ## Sequenced graphs -/

/-- A node comes before another one in the list of live nodes exactly when its id is smaller. -/
theorem mem_earlier_iff (placed : graph.Placed) {earlier later : List Node} {node other : Node}
    (split : graph.live = earlier ++ node :: later) :
    other ∈ earlier ↔ other ∈ graph.live ∧ other.id < node.id := by
  have ascending := placed.pairwise_lt
  rw [split, List.pairwise_append, List.pairwise_cons] at ascending
  obtain ⟨-, ⟨after, -⟩, before⟩ := ascending
  rw [split, List.mem_append, List.mem_cons]
  constructor
  · exact fun member => ⟨.inl member, before other member node (List.mem_cons_self ..)⟩
  · rintro ⟨member | rfl | member, less⟩
    · exact member
    · exact absurd less (Nat.lt_irrefl _)
    · exact absurd (after other member) (Nat.lt_asymm less)

/-- When nodes share the names of their constants, an order is good exactly when everything that is
read has a source. -/
theorem schedulable_iff_sourced (placed : graph.Placed) (shares : graph.SharesNames) :
    Schedulable graph ↔
      ∀ reader ∈ graph.live, ∀ tensor ∈ reader.reads, graph.Sourced reader.id tensor := by
  rw [schedulable_iff]
  constructor
  · intro ordered reader member tensor read
    obtain ⟨earlier, later, split⟩ := List.append_of_mem member
    obtain ⟨input, present⟩ := Node.mem_reads_iff.mp read
    cases ordered earlier reader later split tensor input with
    | absent same => exact absurd same present
    | attached known => exact .constant (shares reader member tensor known)
    | constant known => exact .constant known
    | given listed => exact .input (Graph.isInput_iff.mpr listed)
    | produced producer listed wrote =>
      obtain ⟨live, less⟩ := (mem_earlier_iff placed split).mp listed
      exact .written producer live less (Node.mem_writes_iff.mpr ⟨wrote, present⟩)
  · intro sourced earlier reader later split tensor input
    by_cases absent : tensor = ""
    · exact .absent absent
    have member : reader ∈ graph.live := split ▸ List.mem_append_right _ (List.mem_cons_self ..)
    cases sourced reader member tensor (Node.mem_reads_iff.mpr ⟨input, absent⟩) with
    | input given => exact .given (Graph.isInput_iff.mp given)
    | constant known => exact .constant known
    | written writer live less written =>
      exact .produced writer ((mem_earlier_iff placed split).mpr ⟨live, less⟩)
        (Node.mem_writes_iff.mp written).1

end Schedule

namespace Graph

variable {propagation : Propagation}

/-- The second graph can be scheduled, and no node in it reads an output of a node of the first one
that is neither constant nor written any more. -/
structure KeepsOrder (before after : Graph) : Prop where
  schedulable : Schedule.Schedulable after
  replaced : ∀ reader ∈ after.live, ∀ tensor ∈ reader.reads,
    (∃ node ∈ before.live, tensor ∈ node.writes) →
      after.isConstant tensor = true ∨ ∃ writer ∈ after.live, tensor ∈ writer.writes

theorem Sequenced.keepsOrder {before after : Graph} (exclusive : before.Exclusive)
    (placed : after.Placed) (sequenced : after.Sequenced) (inputs : after.inputs = before.inputs) :
    before.KeepsOrder after where
  schedulable := (Schedule.schedulable_iff_sourced placed sequenced.shares).mpr sequenced.sourced
  replaced := by
    rintro reader member tensor read ⟨node, origin, written⟩
    cases sequenced.sourced reader member tensor read with
    | input given =>
      rw [isInput, inputs] at given
      rw [← isInput, (exclusive node origin tensor written).1] at given
      cases given
    | constant known => exact .inl known
    | written writer live _ wrote => exact .inr ⟨writer, live, wrote⟩

/-- Simplification keeps the order of every edited graph in which no node writes an input or a
constant, whatever propagation has found out, and also when it stops at a node that cannot be
bypassed. -/
theorem keepsOrder_simplify {spec : GraphSpec} {start : Graph} (built : build spec = .ok start)
    (edits : List Edit) (exclusive : (start.edited edits).Exclusive)
    (schedulable : Schedule.Schedulable (start.edited edits)) (propagation : Propagation)
    (journal later : Journal) :
    (start.edited edits).KeepsOrder
        (((start.edited edits).foldConstants propagation).run journal).1.graph ∧
      (start.edited edits).KeepsOrder
        (((((start.edited edits).foldConstants propagation).run journal).1.graph.bypassNops
          propagation).run later).1.1.graph := by
  have traced := (traced_of_build built).edited edits
  have shares := (built_of_build built).sharesNames.edited edits
  generalize start.edited edits = graph at *
  have sequenced : graph.Sequenced := ⟨traced.single.agree, shares, exclusive,
    (Schedule.schedulable_iff_sourced traced.placed shares).mp schedulable⟩
  have fold : (graph.foldConstants propagation).Yields
      ((graph.foldConstants propagation).run journal).1 := .of_run rfl
  obtain ⟨coherent, folded, foldedInputs⟩ := foldConstants_induction
    (fun next => next.Sequenced ∧ next.inputs = graph.inputs)
    (fun _ _ _ coherent folds kept => ⟨kept.1.fold coherent folds,
      (folds.removed.shrinks.inputs.trans folds.enriched.inputs).trans kept.2⟩)
    traced.coherent ⟨sequenced, rfl⟩ fold
  obtain ⟨placed, -, bypassed, bypassedInputs⟩ := bypassNops_invariant
    (fun node before after bypasses (kept : before.Sequenced ∧ before.inputs = graph.inputs) =>
      (⟨kept.1.bypass bypasses, bypasses.inputs.trans kept.2⟩ :
        after.Sequenced ∧ after.inputs = graph.inputs))
    coherent.placed coherent.readers ⟨folded, foldedInputs⟩ (.of_run rfl)
  exact ⟨folded.keepsOrder exclusive coherent.placed foldedInputs,
    bypassed.keepsOrder exclusive placed bypassedInputs⟩

/-! ## A graph with a node that stops simplification -/

/-- A shape that is computed on the way is folded, and two nodes are bypassed before one that lacks
its input. One node reads a tensor that nothing writes. -/
def stopped : GraphSpec where
  name := "stopped"
  nodes :=
    [ ⟨"same", "Identity", ["x"], ["h"], .empty⟩,
      ⟨"shape", "Shape", ["h"], ["s"], .empty⟩,
      ⟨"reshape", "Reshape", ["h", "s"], ["r"], .empty⟩,
      ⟨"relu", "Relu", ["q"], ["y"], .empty⟩,
      ⟨"stuck", "Identity", [""], ["z"], .empty⟩ ]
  inputs := [⟨"x", 1, some [2]⟩]
  outputs := [⟨"y", 1, some [2]⟩]
  initializers := .empty
  values := []

/-- The graph of the description. -/
def stoppedStart : Graph := (build stopped).toOption.get rfl

/-- The edit that lets the node read a tensor that is written. -/
def stoppedEdits : List Edit := [.rewire "q" "r"]

/-- What propagation finds out about the edited graph. -/
def stoppedKnowledge : Propagation :=
  ((Propagator.builtin.run (stoppedStart.edited stoppedEdits)).run.run []).1.toOption.get rfl

/-- Simplification stops with an error and leaves two nodes, one of which reads the input now. -/
theorem keepsOrder_simplify_stopped :
    (((((stoppedStart.edited stoppedEdits).foldConstants stoppedKnowledge).run
          []).1.graph.bypassNops stoppedKnowledge).run []).1.2 =
        some (.incompleteNop "stuck" "Identity") ∧
      (((((stoppedStart.edited stoppedEdits).foldConstants stoppedKnowledge).run
          []).1.graph.bypassNops stoppedKnowledge).run []).1.1.graph.live.map Node.inputs =
        [["x"], [""]] ∧
      (stoppedStart.edited stoppedEdits).KeepsOrder
        (((stoppedStart.edited stoppedEdits).foldConstants stoppedKnowledge).run []).1.graph ∧
      (stoppedStart.edited stoppedEdits).KeepsOrder
        (((((stoppedStart.edited stoppedEdits).foldConstants stoppedKnowledge).run
          []).1.graph.bypassNops stoppedKnowledge).run []).1.1.graph := by
  have built : build stopped = .ok stoppedStart := rfl
  have exclusive : (stoppedStart.edited stoppedEdits).Exclusive := by
    unfold Exclusive
    decide +kernel
  have scheduled : Schedule.ofGraph (stoppedStart.edited stoppedEdits)
      (fun _ => some ⟨"", "", "", .object "" .globalMaxPool⟩) = .ok _ :=
    Outcome.eq_ok_get (by decide +kernel)
  exact ⟨by decide +kernel, by decide +kernel,
    keepsOrder_simplify built stoppedEdits exclusive
      (Schedule.schedulable_of_ofGraph scheduled) stoppedKnowledge [] []⟩

end Graph

end StaticNet
