import Mathlib.Data.List.Perm.Basic
import StaticNet.Proofs.Propagation.Pass

/-! # The order of a pass does not count

What a pass over ordered nodes ends with is a solution: every node finds out, from the knowledge at
the end, what is recorded about its outputs. Any other pass in which readers come after writers ends
with the same solution, and traps when the first one does.
-/

namespace StaticNet

/-- A node without its place in a graph. -/
def Node.content (node : Node) : Node := { node with id := 0, parents := [], children := [] }

namespace Propagator

variable {propagator : Propagator} {graph : Graph}

/-! ## Solutions -/

/-- Nodes in order that write different tensors. -/
structure Sequential (nodes : List Node) : Prop where
  ordered : InOrder nodes
  distinct : ∀ node ∈ nodes, node.writes.Nodup
  apart : nodes.Pairwise fun node later => ∀ tensor ∈ node.writes, tensor ∉ later.writes

theorem sequential_live {stale : List (Nat × Nat)} (traced : graph.Traced stale)
    (ordered : InOrder graph.live) : Sequential graph.live where
  ordered := ordered
  distinct := traced.single.distinct
  apart := by
    refine (traced.placed.pairwise_lt.imp_of_mem ?_)
    intro node later member laterMember less tensor written wrote
    have same := traced.single.agree node member later laterMember tensor written wrote
    omega

namespace Sequential

variable {node : Node} {rest : List Node}

theorem tail (sequential : Sequential (node :: rest)) : Sequential rest where
  ordered := ⟨fun other member =>
    sequential.ordered.itself other (List.mem_cons_of_mem node member),
    sequential.ordered.later.tail⟩
  distinct := fun other member => sequential.distinct other (List.mem_cons_of_mem node member)
  apart := sequential.apart.tail

/-- What the first node reads nobody writes any more. -/
theorem unwritten (sequential : Sequential (node :: rest)) {tensor : String}
    (read : tensor ∈ node.reads) : ∀ other ∈ node :: rest, tensor ∉ other.writes := by
  intro other member written
  rcases List.mem_cons.mp member with rfl | later
  · exact sequential.ordered.itself other member tensor written read
  · exact (List.pairwise_cons.mp sequential.ordered.later).1 other later tensor written read

/-- What the first node writes nobody else writes. -/
theorem written_once (sequential : Sequential (node :: rest)) {tensor : String}
    (written : tensor ∈ node.writes) : ∀ later ∈ rest, tensor ∉ later.writes :=
  fun later member => (List.pairwise_cons.mp sequential.apart).1 later member tensor written

end Sequential

/-- From the knowledge at the end every node finds out what is recorded about its outputs then, and
what no node writes is known as it was at the start. -/
structure Solves (propagator : Propagator) (graph : Graph) (nodes : List Node)
    (start final : Dict Knowledge) : Prop where
  found : ∀ node ∈ nodes, ∃ results,
    findings (propagator.evaluate graph final node) = some results ∧
      ∀ index tensor, node.outputs[index]? = some tensor → tensor ≠ "" →
        final.get? tensor = revise (start.get? tensor) (results.getD index .unknown)
  kept : ∀ tensor, (∀ node ∈ nodes, tensor ∉ node.writes) →
    final.get? tensor = start.get? tensor

/-- A pass in order ends with a solution. -/
theorem solves_of_sweep {nodes : List Node} (sequential : Sequential nodes)
    {start final : Dict Knowledge} (swept : propagator.sweep graph nodes start = some final) :
    Solves propagator graph nodes start final := by
  induction nodes generalizing start with
  | nil =>
    cases swept
    exact ⟨fun node member => absurd member List.not_mem_nil, fun _ _ => rfl⟩
  | cons node rest ih =>
    obtain ⟨next, learned, onwards⟩ := Option.bind_eq_some_iff.mp swept
    obtain ⟨results, found, kept, revised⟩ := learn_spec learned
    have solves := ih sequential.tail onwards
    constructor
    · intro other member
      rcases List.mem_cons.mp member with rfl | later
      · refine ⟨results, ?_, fun index tensor position present => ?_⟩
        · rw [← found]
          refine congrArg findings (evaluate_congr fun tensor read => ?_)
          have unwritten := sequential.unwritten read
          rw [solves.kept tensor fun later listed =>
              unwritten later (List.mem_cons_of_mem other listed),
            kept tensor (unwritten other List.mem_cons_self)]
        · have written : tensor ∈ other.writes :=
            Node.mem_writes_iff.mpr ⟨List.mem_of_getElem? position, present⟩
          rw [solves.kept tensor (sequential.written_once written),
            revised (sequential.distinct other member) index tensor position present]
      · obtain ⟨findings, foundLater, agrees⟩ := solves.found other later
        refine ⟨findings, foundLater, fun index tensor position present => ?_⟩
        have written : tensor ∈ other.writes :=
          Node.mem_writes_iff.mpr ⟨List.mem_of_getElem? position, present⟩
        have unwritten : tensor ∉ node.writes := fun earlier =>
          sequential.written_once earlier other later written
        rw [agrees index tensor position present, kept tensor unwritten]
    · intro tensor unwritten
      rw [solves.kept tensor fun later listed =>
          unwritten later (List.mem_cons_of_mem node listed),
        kept tensor (unwritten node List.mem_cons_self)]

/-- A pass in order over nodes of a solution ends with that solution. Along the way, what is yet to
be written is known as it was at the start, and all else as it is in the solution. -/
theorem sweep_of_solves {all nodes : List Node} {start final states : Dict Knowledge}
    (solves : Solves propagator graph all start final) (sequential : Sequential nodes)
    (among : nodes ⊆ all)
    (pending : ∀ tensor, (∃ node ∈ nodes, tensor ∈ node.writes) →
      states.get? tensor = start.get? tensor)
    (settled : ∀ tensor, (∀ node ∈ nodes, tensor ∉ node.writes) →
      states.get? tensor = final.get? tensor) :
    ∃ last, propagator.sweep graph nodes states = some last ∧
      ∀ tensor, last.get? tensor = final.get? tensor := by
  induction nodes generalizing states with
  | nil => exact ⟨states, rfl, fun tensor => settled tensor fun _ member => by cases member⟩
  | cons node rest ih =>
    obtain ⟨results, found, agrees⟩ := solves.found node (among List.mem_cons_self)
    have evaluated : findings (propagator.evaluate graph states node) = some results := by
      rw [← found]
      exact congrArg findings
        (evaluate_congr fun tensor read => settled tensor (sequential.unwritten read))
    obtain ⟨next, learned⟩ : ∃ next, propagator.learn graph states node = some next :=
      ⟨_, Option.map_eq_some_iff.mpr ⟨results, evaluated, rfl⟩⟩
    obtain ⟨again, foundAgain, kept, revised⟩ := learn_spec learned
    obtain rfl := Option.some.inj (foundAgain.symm.trans evaluated)
    have pendingNext : ∀ tensor, (∃ later ∈ rest, tensor ∈ later.writes) →
        next.get? tensor = start.get? tensor := by
      rintro tensor ⟨later, listed, written⟩
      have unwritten : tensor ∉ node.writes := fun earlier =>
        sequential.written_once earlier later listed written
      rw [kept tensor unwritten]
      exact pending tensor ⟨later, List.mem_cons_of_mem node listed, written⟩
    have settledNext : ∀ tensor, (∀ later ∈ rest, tensor ∉ later.writes) →
        next.get? tensor = final.get? tensor := by
      intro tensor unwritten
      by_cases written : tensor ∈ node.writes
      · obtain ⟨listed, present⟩ := Node.mem_writes_iff.mp written
        obtain ⟨index, position⟩ := List.mem_iff_getElem?.mp listed
        rw [revised (sequential.distinct node List.mem_cons_self) index tensor position present,
          agrees index tensor position present,
          pending tensor ⟨node, List.mem_cons_self, written⟩]
      · rw [kept tensor written]
        refine settled tensor fun other member => ?_
        rcases List.mem_cons.mp member with rfl | later
        · exact written
        · exact unwritten other later
    obtain ⟨last, swept, same⟩ := ih sequential.tail
      (fun other member => among (List.mem_cons_of_mem node member)) pendingNext settledNext
    exact ⟨last, Option.bind_eq_some_iff.mpr ⟨next, learned, swept⟩, same⟩

/-! ## Graphs that differ in the order of their nodes -/

/-- The transfer functions do not look at the place of a node in its graph. -/
def Placeless (propagator : Propagator) : Prop :=
  ∀ op transfer, propagator.transfers.get? op = some transfer →
    ∀ node inputs, transfer.apply node.content inputs = transfer.apply node inputs

/-- Two graphs have the same nodes, perhaps in another order, and all else that propagation looks
at is the same. -/
structure Reordered (graph other : Graph) : Prop where
  nodes : (other.live.map Node.content).Perm (graph.live.map Node.content)
  start : ∀ tensor, (initialStates other).get? tensor = (initialStates graph).get? tensor
  inputs : ∀ tensor, other.isInput tensor = graph.isInput tensor
  constants : ∀ tensor, other.isConstant tensor = graph.isConstant tensor
  shapes : ∀ tensor, other.recordedShape? tensor = graph.recordedShape? tensor

namespace Reordered

variable {other : Graph}

theorem symm (reordered : Reordered graph other) : Reordered other graph where
  nodes := reordered.nodes.symm
  start := fun tensor => (reordered.start tensor).symm
  inputs := fun tensor => (reordered.inputs tensor).symm
  constants := fun tensor => (reordered.constants tensor).symm
  shapes := fun tensor => (reordered.shapes tensor).symm

/-- Graphs with the same declared inputs, constants and shape table. -/
theorem of_eq (nodes : (other.live.map Node.content).Perm (graph.live.map Node.content))
    (inputs : other.inputs = graph.inputs) (constants : other.constants = graph.constants)
    (shapes : other.shapes = graph.shapes) : Reordered graph other where
  nodes := nodes
  start := by simp only [initialStates, inputs, constants, implies_true]
  inputs := by simp only [Graph.isInput, inputs, implies_true]
  constants := by simp only [Graph.isConstant, constants, implies_true]
  shapes := by simp only [Graph.recordedShape?, shapes, implies_true]

theorem exists_mem (reordered : Reordered graph other) {node : Node} (member : node ∈ other.live) :
    ∃ same ∈ graph.live, same.content = node.content :=
  List.mem_map.mp (reordered.nodes.subset (List.mem_map_of_mem member))

/-- A visit finds out the same in both graphs. -/
theorem evaluate_eq (reordered : Reordered graph other) (placeless : Placeless propagator)
    {one node : Node} (same : one.content = node.content) (states : Dict Knowledge) :
    propagator.evaluate other states node = propagator.evaluate graph states one := by
  have op := Node.congr_strip same Node.op fun _ => rfl
  have inputs := Node.congr_strip same Node.inputs fun _ => rfl
  have outputs := Node.congr_strip same Node.outputs fun _ => rfl
  rw [evaluate, evaluate, op]
  split
  · rw [tableStates, tableStates, outputs]
    simp only [reordered.shapes]
  · next transfer found =>
    rw [← placeless _ transfer found node, ← placeless _ transfer found one, same, inputs]
    refine congrArg _ (List.map_congr_left fun tensor _ => ?_)
    rw [inputState, inputState, reordered.inputs, reordered.constants]

/-- A solution for one graph is a solution for the other. -/
theorem solves (reordered : Reordered graph other) (placeless : Placeless propagator)
    {final : Dict Knowledge}
    (solves : Solves propagator graph graph.live (initialStates graph) final) :
    Solves propagator other other.live (initialStates other) final := by
  constructor
  · intro node member
    obtain ⟨one, oneMember, same⟩ := reordered.exists_mem member
    obtain ⟨results, found, agrees⟩ := solves.found one oneMember
    have outputs := Node.congr_strip same Node.outputs fun _ => rfl
    refine ⟨results, (congrArg findings (reordered.evaluate_eq placeless same final)).trans found,
      fun index tensor position present => ?_⟩
    rw [reordered.start]
    exact agrees index tensor (outputs ▸ position) present
  · intro tensor unwritten
    rw [reordered.start]
    refine solves.kept tensor fun one member => ?_
    obtain ⟨node, nodeMember, same⟩ := reordered.symm.exists_mem member
    have writes := Node.congr_strip same Node.writes fun _ => rfl
    exact writes ▸ unwritten node nodeMember

/-- When a pass over one graph has a result, so has a pass over the other, with the same states. -/
theorem sweep_eq (reordered : Reordered graph other) (placeless : Placeless propagator)
    (sequential : Sequential graph.live) (sequentialOther : Sequential other.live)
    {final : Dict Knowledge}
    (swept : propagator.sweep graph graph.live (initialStates graph) = some final) :
    ∃ last, propagator.sweep other other.live (initialStates other) = some last ∧
      ∀ tensor, last.get? tensor = final.get? tensor := by
  have solved := reordered.solves placeless (solves_of_sweep sequential swept)
  exact sweep_of_solves solved sequentialOther (List.Subset.refl _) (fun _ _ => rfl)
    fun tensor unwritten => (solved.kept tensor unwritten).symm

end Reordered

/-- Two runs have the same states, or the same error. -/
inductive SameStates :
    Except PropagationError Propagation → Except PropagationError Propagation → Prop where
  | ok {one other : Propagation}
      (same : ∀ tensor, other.states.get? tensor = one.states.get? tensor) :
      SameStates (.ok one) (.ok other)
  | error (cause : PropagationError) : SameStates (.error cause) (.error cause)

private theorem eq_ok_of_map {outcome : Except PropagationError Propagation}
    {final : Dict Knowledge} (same : outcome.map Propagation.states = orTrap (some final)) :
    ∃ propagation, outcome = .ok propagation ∧ propagation.states = final := by
  cases outcome with
  | error cause => cases same
  | ok propagation => exact ⟨propagation, rfl, Except.ok.inj same⟩

private theorem eq_error_of_map {outcome : Except PropagationError Propagation}
    (same : outcome.map Propagation.states = orTrap none) : outcome = .error .trap := by
  cases outcome with
  | error cause => exact congrArg Except.error (Except.error.inj same)
  | ok propagation => cases same

private theorem ne_noFixpoint_of_map {outcome : Except PropagationError Propagation}
    {swept : Option (Dict Knowledge)} (same : outcome.map Propagation.states = orTrap swept)
    (visits : Nat) : outcome ≠ .error (.noFixpoint visits) := by
  rintro rfl
  cases swept with
  | none => cases same
  | some final => cases same

/-- Passes over both graphs have results, and then the same states, or neither has one. -/
private theorem Reordered.sameStates {other : Graph} (reordered : Reordered graph other)
    (placeless : Placeless propagator) (sequential : Sequential graph.live)
    (sequentialOther : Sequential other.live) {one two : Except PropagationError Propagation}
    (outcome : one.map Propagation.states =
      orTrap (propagator.sweep graph graph.live (initialStates graph)))
    (outcomeOther : two.map Propagation.states =
      orTrap (propagator.sweep other other.live (initialStates other))) :
    SameStates one two := by
  cases swept : propagator.sweep graph graph.live (initialStates graph) with
  | some final =>
    obtain ⟨last, sweptOther, same⟩ :=
      reordered.sweep_eq placeless sequential sequentialOther swept
    rw [swept] at outcome
    rw [sweptOther] at outcomeOther
    obtain ⟨propagation, rfl, rfl⟩ := eq_ok_of_map outcome
    obtain ⟨otherPropagation, rfl, rfl⟩ := eq_ok_of_map outcomeOther
    exact .ok same
  | none =>
    cases sweptOther : propagator.sweep other other.live (initialStates other) with
    | some last =>
      obtain ⟨final, again, -⟩ :=
        reordered.symm.sweep_eq placeless sequentialOther sequential sweptOther
      cases swept.symm.trans again
    | none =>
      rw [swept] at outcome
      rw [sweptOther] at outcomeOther
      obtain rfl := eq_error_of_map outcome
      obtain rfl := eq_error_of_map outcomeOther
      exact .error .trap

/-- With no bound given, a run over nodes of which none reads what it or a later node writes is one
pass: it visits the live nodes in turn, each of them once, and always reaches a fixed point. The
states do not hang on the order of the nodes. -/
theorem run_inOrder {spec : GraphSpec} {start : Graph} (built : Graph.build spec = .ok start)
    (edits : List Edit) (default : propagator.visitLimit = 0)
    (ordered : InOrder (start.edited edits).live) :
    (propagator.run (start.edited edits) = do
      let final ← propagator.pass (start.edited edits) (start.edited edits).live
        ⟨initialStates (start.edited edits), [], []⟩
      return ⟨final.states, ((start.edited edits).live.filter fun node =>
        final.unhandled.contains node.id).map Node.name, (start.edited edits).live.length⟩) ∧
    (∀ journal visits, ((propagator.run (start.edited edits)).run.run journal).1 ≠
      .error (.noFixpoint visits)) ∧
    ∀ (otherSpec : GraphSpec) (otherStart : Graph), Graph.build otherSpec = .ok otherStart →
      ∀ otherEdits : List Edit, Placeless propagator →
        Reordered (start.edited edits) (otherStart.edited otherEdits) →
          InOrder (otherStart.edited otherEdits).live → ∀ journal otherJournal,
            SameStates ((propagator.run (start.edited edits)).run.run journal).1
              ((propagator.run (otherStart.edited otherEdits)).run.run otherJournal).1 := by
  have traced := (Graph.traced_of_build built).edited edits
  have enough := size_le_limit default (start.edited edits)
  have outcome := states_run traced ordered enough
  refine ⟨run_eq_pass traced ordered enough,
    fun journal visits => ne_noFixpoint_of_map (outcome journal) visits, ?_⟩
  intro otherSpec otherStart otherBuilt otherEdits placeless reordered orderedOther journal
    otherJournal
  have tracedOther := (Graph.traced_of_build otherBuilt).edited otherEdits
  have outcomeOther := states_run tracedOther orderedOther
    (size_le_limit default (otherStart.edited otherEdits)) otherJournal
  exact reordered.sameStates placeless (sequential_live traced ordered)
    (sequential_live tracedOther orderedOther) (outcome journal) outcomeOther

/-- The built-in transfer functions do not look at places. -/
theorem placeless_builtin : Placeless builtin := by
  intro op transfer found
  have member := Dict.mem_of_get?_ofList found
  suffices all : List.Forall (fun entry : String × Transfer => ∀ node inputs,
      entry.2.apply node.content inputs = entry.2.apply node inputs) _ from
    List.forall_iff_forall_mem.mp all _ member
  repeat' apply And.intro
  all_goals exact fun _ _ => rfl

/-- Readers of one tensor: an operator that folds, one that reads a constant, one without a transfer
function, and one whose other input is not known. -/
def readers : List NodeSpec :=
  [ ⟨"size", "Shape", ["a"], ["s"], .empty⟩,
    ⟨"fit", "Reshape", ["a", "k"], ["c"], .empty⟩,
    ⟨"odd", "Erf", ["a"], ["d"], .empty⟩,
    ⟨"late", "MatMul", ["a", "d"], ["e", ""], .empty⟩ ]

/-- A graph in which one node feeds a list of others. -/
def fork (nodes : List NodeSpec) : GraphSpec where
  name := "fork"
  nodes := ⟨"act", "Relu", ["x"], ["a"], .empty⟩ :: nodes
  inputs := [⟨"x", 1, some [2]⟩]
  outputs := [⟨"c", 1, some [2]⟩, ⟨"e", 1, none⟩]
  initializers := Dict.ofList [("k", default)]
  values := []

/-- The graph with its readers as they are listed. -/
def forkGraph : Graph := (Graph.build (fork readers)).toOption.get rfl

/-- The graph with its last two readers in front. -/
def swappedGraph : Graph := (Graph.build (fork (readers.rotate 2))).toOption.get rfl

/-- Each of the five nodes is visited once, in either order. -/
theorem run_inOrder_fork :
    forkGraph.live.map Node.name = ["act", "size", "fit", "odd", "late"] ∧
      swappedGraph.live.map Node.name = ["act", "odd", "late", "size", "fit"] ∧
      ((builtin.run forkGraph).run.run []).1.toOption.map Propagation.visits = some 5 ∧
      SameStates ((builtin.run forkGraph).run.run []).1
        ((builtin.run swappedGraph).run.run []).1 := by
  have built : Graph.build (fork readers) = .ok forkGraph := rfl
  have builtOther : Graph.build (fork (readers.rotate 2)) = .ok swappedGraph := rfl
  have ordered : InOrder forkGraph.live := ⟨by decide, by decide⟩
  have orderedOther : InOrder swappedGraph.live := ⟨by decide, by decide⟩
  have reordered : Reordered forkGraph swappedGraph :=
    .of_eq (by decide) (by decide) (by decide) (by decide)
  obtain ⟨-, -, same⟩ := @run_inOrder builtin _ _ built [] rfl ordered
  have agrees := same _ _ builtOther [] placeless_builtin reordered orderedOther [] []
  exact ⟨rfl, rfl, by decide +kernel, agrees⟩

end Propagator

end StaticNet
