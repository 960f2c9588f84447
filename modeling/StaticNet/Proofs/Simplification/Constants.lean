import StaticNet.Proofs.Simplification.Sources

/-! # Constants stay exact

A constant is kept twice: in the graph, and in every node that reads it. Folding and bypassing
write both copies and never delete an entry of either, yet what a node has attached stays what is
constant among its inputs. Folding attaches a value to exactly the readers of a tensor; bypassing a
node takes all readers from the tensor that the node writes, and as nothing that is written is
constant, no reader holds a value that it no longer reads.
-/

namespace StaticNet.Graph

variable {propagation : Propagation}

/-- What is attached to a live node are, without repetition, the constants among its inputs, and
with the values that they have in the graph. -/
structure AttachesConstants (graph : Graph) : Prop where
  distinct : ∀ node ∈ graph.live, node.constantNames.Nodup
  names : ∀ node ∈ graph.live, ∀ tensor,
    tensor ∈ node.constantNames ↔ tensor ∈ node.inputs ∧ graph.isConstant tensor = true
  values : ∀ node ∈ graph.live, ∀ tensor ∈ node.constantNames, ∃ value,
    node.constants.get? tensor = some value ∧ graph.constants.get? tensor = some value

/-- A live node holds the constants that it reads and nothing else. -/
def HoldsRead (graph : Graph) : Prop :=
  ∀ node ∈ graph.live, ∀ tensor, node.constants.get? tensor =
    if tensor ∈ node.inputs then graph.constants.get? tensor else none

/-- Only nodes that read a tensor are listed as its readers. -/
def ListsReaders (graph : Graph) : Prop :=
  ∀ node ∈ graph.live, ∀ tensor, node.id ∈ (graph.consumers.get? tensor).getD [] →
    tensor ∈ node.reads

/-- Nodes hold what they read, and nothing that is written is constant. -/
structure Tallied (graph : Graph) : Prop where
  agree : WritersAgree graph.live
  distinct : graph.KeysDistinct
  holds : graph.HoldsRead
  unwritten : ∀ node ∈ graph.live, ∀ tensor ∈ node.writes, graph.isConstant tensor = false

theorem Tallied.attachesConstants {graph : Graph} (tallied : graph.Tallied) :
    graph.AttachesConstants := by
  have names : ∀ node ∈ graph.live, ∀ tensor, tensor ∈ node.constantNames ↔
      tensor ∈ node.inputs ∧ graph.isConstant tensor = true := by
    intro node member tensor
    have held := tallied.holds node member tensor
    rw [Node.constantNames, Dict.mem_keys_iff, held, isConstant_iff]
    split
    · next read => simp [read]
    · next unread => simp [unread]
  refine ⟨tallied.distinct, names, fun node member tensor attached => ?_⟩
  obtain ⟨read, constant⟩ := (names node member tensor).mp attached
  obtain ⟨value, found⟩ := isConstant_iff.mp constant
  refine ⟨value, ?_, found⟩
  rw [tallied.holds node member tensor, if_pos read, found]

/-! ## Graphs built from descriptions -/

theorem Traced.listsReaders {graph : Graph} {stale : List (Nat × Nat)}
    (traced : graph.Traced stale) : graph.ListsReaders := by
  intro node member tensor listed
  rw [traced.consumers, getD_entry] at listed
  exact (traced.placed.mem_readerIds_iff member tensor).mp listed

theorem holdsRead_of_build {spec : GraphSpec} {graph : Graph} (built : build spec = .ok graph) :
    graph.HoldsRead := by
  intro node member tensor
  rw [constants_of_build built member]
  exact get?_attachedConstants graph.constants node.inputs tensor

theorem tallied_of_build {spec : GraphSpec} {graph : Graph} (built : build spec = .ok graph)
    (unwritten : ∀ origin ∈ spec.nodes, ∀ tensor ∈ origin.outputs, tensor ≠ "" →
      spec.initializers.contains tensor = false) : graph.Tallied := by
  have start := built_of_build built
  refine ⟨start.writers, start.distinct, holdsRead_of_build built, ?_⟩
  intro node member tensor written
  obtain ⟨origin, present, describes⟩ := start.origins node member
  obtain ⟨output, named⟩ := Node.mem_writes_iff.mp written
  rw [isConstant, start.constants]
  exact unwritten origin present tensor (describes.outputs ▸ output) named

/-! ## Folding -/

theorem ListsReaders.consumersOf_empty {graph : Graph} (placed : graph.Placed)
    (lists : graph.ListsReaders) : graph.consumersOf "" = [] := by
  refine List.eq_nil_iff_forall_not_mem.mpr fun node consumer => ?_
  obtain ⟨id, listed, found⟩ := List.mem_filterMap.mp consumer
  obtain rfl := placed id node found
  exact (Node.mem_reads_iff.mp (lists node (mem_live_iff.mpr ⟨_, found⟩) "" listed)).2 rfl

/-- The readers of a tensor, and no other nodes, get its value together with the graph. -/
theorem HoldsRead.attachToConsumers {graph : Graph} (coherent : graph.Coherent)
    (lists : graph.ListsReaders) (holds : graph.HoldsRead) (tensor : String) (value : Tensor) :
    (graph.attachToConsumers tensor value).HoldsRead := by
  intro node member other
  rw [get?_attachToConsumers coherent.placed]
  obtain ⟨old, present, ⟨rfl, unlisted⟩ | ⟨rfl, listed, inhabited⟩⟩ :=
    mem_live_attachToConsumers coherent.placed member
  · have held := holds node present other
    split
    · next read =>
      rw [if_pos read] at held
      rw [if_neg, held]
      -- A node that reads the tensor is one of its readers, so it is not passed over.
      rintro ⟨rfl, inhabited⟩
      have named : other ≠ "" := by
        rintro rfl
        exact inhabited (lists.consumersOf_empty coherent.placed)
      exact unlisted (coherent.readers.mem_consumersOf coherent.placed present
        (Node.mem_reads_iff.mpr ⟨read, named⟩))
    · next unread => rw [held, if_neg unread]
  · have read := (Node.mem_reads_iff.mp (lists old present tensor listed)).1
    rw [Node.attach, Dict.get?_insert]
    by_cases same : other = tensor
    · subst same
      rw [if_pos rfl, if_pos read, if_pos ⟨rfl, inhabited⟩]
    · have apart : ¬ (other = tensor ∧ graph.consumersOf tensor ≠ []) := fun both => same both.1
      rw [if_neg same, if_neg apart]
      exact holds old present other

theorem ListsReaders.attachToConsumers {graph : Graph} (placed : graph.Placed)
    (lists : graph.ListsReaders) (tensor : String) (value : Tensor) :
    (graph.attachToConsumers tensor value).ListsReaders := by
  intro node member other listed
  rw [consumers_attachToConsumers] at listed
  obtain ⟨old, present, ⟨rfl, -⟩ | ⟨rfl, -⟩⟩ := mem_live_attachToConsumers placed member
  · exact lists node present other listed
  · exact lists old present other listed

theorem Shrinks.listsReaders {before after : Graph} (shrinks : Shrinks before after)
    (lists : before.ListsReaders) : after.ListsReaders := by
  intro node member tensor listed
  obtain ⟨old, present, alike⟩ := shrinks.live member
  rw [alike.reads]
  exact lists old present tensor (alike.id ▸ shrinks.fewer tensor listed)

theorem ListsReaders.fold {node : Node} {before after : Graph} (coherent : before.Coherent)
    (folds : Folds propagation node before after) (lists : before.ListsReaders) :
    after.ListsReaders := by
  have attached : (before.attachOutputs propagation node).ListsReaders :=
    (attachOutputs_invariant propagation ListsReaders
      (fun _ coherent tensor _ value lists => lists.attachToConsumers coherent.placed tensor value)
      coherent lists).2.1
  exact folds.removed.shrinks.listsReaders attached

theorem Shrinks.holdsRead {before after : Graph} (shrinks : Shrinks before after)
    (holds : before.HoldsRead) : after.HoldsRead := by
  intro node member tensor
  obtain ⟨old, present, alike⟩ := shrinks.live member
  rw [alike.constants, alike.inputs, shrinks.constants]
  exact holds old present tensor

theorem Tallied.fold {node : Node} {before after : Graph} (coherent : before.Coherent)
    (folds : Folds propagation node before after) (lists : before.ListsReaders)
    (tallied : before.Tallied) : after.Tallied ∧ after.ListsReaders := by
  have shrinks := folds.removed.shrinks
  have attached : (before.attachOutputs propagation node).HoldsRead ∧
      (before.attachOutputs propagation node).ListsReaders :=
    (attachOutputs_invariant propagation (fun graph => graph.HoldsRead ∧ graph.ListsReaders)
      (fun graph coherent tensor _ value good =>
        ⟨good.1.attachToConsumers coherent good.2 tensor value,
          good.2.attachToConsumers coherent.placed tensor value⟩)
      coherent ⟨tallied.holds, lists⟩).2.1
  refine ⟨⟨tallied.agree.fold folds,
    shrinks.keysDistinct (folds.enriched.distinct tallied.distinct), shrinks.holdsRead attached.1,
    ?_⟩, shrinks.listsReaders attached.2⟩
  intro next present tensor written
  obtain ⟨old, oldMember, same⟩ := folds.live present
  exact folds.isConstant_eq_false coherent tallied.agree present written
    (tallied.unwritten old oldMember tensor
      (Node.congr_strip same Node.writes (fun _ => rfl) ▸ written))

/-! ## Bypassing -/

/-- A node that reads the old tensor is given the value of the replacement. -/
theorem constants_redirect_of_reads {old replacement : String} {value : Option Tensor}
    {node : Node} (reads : old ∈ node.inputs) (tensor : String) :
    (redirect old replacement value node).constants.get? tensor =
      if tensor = replacement then value.or (node.constants.get? tensor)
      else node.constants.get? tensor := by
  rw [redirect, if_pos (List.contains_iff_mem.mpr reads)]
  cases value with
  | none => simp
  | some value => simp [Node.attach]

theorem redirect_of_not_mem {old replacement : String} {value : Option Tensor} {node : Node}
    (unread : old ∉ node.inputs) : redirect old replacement value node = node := by
  rw [redirect, if_neg fun reads => unread (List.contains_iff_mem.mp reads)]

/-- The tensor that a bypassed node writes is not constant, so that its readers hold no value that
they do not read any more. -/
theorem HoldsRead.bypass {node : Node} {before after : Graph}
    (bypasses : Bypasses propagation node before after) (holds : before.HoldsRead)
    (unset : before.isConstant (node.output 0) = false) : after.HoldsRead := by
  intro next member tensor
  obtain ⟨old, present, -, alike⟩ := bypasses.nodes next member
  have held := holds old present
  have absent := isConstant_eq_false_iff.mp unset
  rw [alike.constants, alike.inputs, bypasses.constants]
  by_cases reads : node.output 0 ∈ old.inputs
  · have read : tensor ∈ old.inputs.map (fun tensor =>
        if tensor = node.output 0 then node.input 0 else tensor) ↔
        tensor = node.input 0 ∨ tensor ∈ old.inputs ∧ tensor ≠ node.output 0 := by
      rw [List.mem_map]
      grind
    rw [constants_redirect_of_reads reads, held tensor, inputs_redirect]
    simp only [read]
    grind
  · rw [redirect_of_not_mem reads]
    exact held tensor

theorem Tallied.bypass {node : Node} {before after : Graph}
    (bypasses : Bypasses propagation node before after) (tallied : before.Tallied) :
    after.Tallied := by
  obtain ⟨ownWrite, -, -⟩ := Node.writes_of_first bypasses.output
  refine ⟨tallied.agree.bypass bypasses, tallied.distinct.bypass bypasses,
    tallied.holds.bypass bypasses (tallied.unwritten node bypasses.member _ ownWrite), ?_⟩
  intro next present tensor written
  obtain ⟨old, oldMember, -, alike⟩ := bypasses.nodes next present
  rw [isConstant, bypasses.constants]
  exact tallied.unwritten old oldMember tensor (writes_redirect ▸ alike.writes ▸ written)

/-! ## All steps -/

/-- Live nodes have exactly the constants among their inputs attached: in a graph that has just been
built, after folding and after bypassing, whatever propagation has found out before either, and also
when bypassing stops at a node that cannot be bypassed. -/
theorem attachesConstants_simplify {spec : GraphSpec} {graph : Graph}
    (built : build spec = .ok graph)
    (unwritten : ∀ origin ∈ spec.nodes, ∀ tensor ∈ origin.outputs, tensor ≠ "" →
      spec.initializers.contains tensor = false)
    (propagation later : Propagation) (journal next : Journal) :
    graph.AttachesConstants ∧
      ((graph.foldConstants propagation).run journal).1.graph.AttachesConstants ∧
      ((((graph.foldConstants propagation).run journal).1.graph.bypassNops later).run
        next).1.1.graph.AttachesConstants := by
  have tallied := tallied_of_build built unwritten
  have traced := traced_of_build built
  obtain ⟨coherent, folded, -⟩ := foldConstants_induction
    (fun graph => graph.Tallied ∧ graph.ListsReaders)
    (fun _ _ _ coherent folds kept => kept.1.fold coherent folds kept.2)
    traced.coherent ⟨tallied, traced.listsReaders⟩
    (.of_run (rfl : ((graph.foldConstants propagation).run journal).1 = _))
  obtain ⟨-, -, bypassed⟩ := bypassNops_invariant
    (fun node before after bypasses (kept : before.Tallied) => kept.bypass bypasses)
    coherent.placed coherent.readers folded
    (.of_run (rfl : ((((graph.foldConstants propagation).run journal).1.graph.bypassNops later).run
      next).1 = _))
  exact ⟨tallied.attachesConstants, folded.attachesConstants, bypassed.attachesConstants⟩

/-! ## A graph whose constants move -/

/-- Folding makes the target of the reshape constant, and bypassing lets the sum read a constant
that was hidden behind an identity, next to one that it reads already. -/
def moving : GraphSpec where
  name := "moving"
  nodes :=
    [ ⟨"same", "Identity", ["w"], ["v"], .empty⟩,
      ⟨"shape", "Shape", ["x"], ["s"], .empty⟩,
      ⟨"reshape", "Reshape", ["q", "s"], ["r"], .empty⟩,
      ⟨"sum", "Sum", ["r", "v", "b", "w"], ["y"], .empty⟩ ]
  inputs := [⟨"x", 1, some [2]⟩, ⟨"q", 1, none⟩]
  outputs := [⟨"y", 1, some [2]⟩]
  initializers := Dict.ofList [("w", Tensor.vector [1, 2]), ("b", Tensor.vector [3, 4])]
  values := []

/-- The graph of the description. -/
def movingStart : Graph := (build moving).toOption.get rfl

/-- What propagation finds out about the graph. -/
def movingKnowledge : Propagation :=
  ((Propagator.builtin.run movingStart).run.run []).1.toOption.get rfl

/-- The sum holds its constants in the order in which they were attached, and the node that is left
before it has got the value that was folded. -/
theorem attachesConstants_simplify_moving :
    movingStart.live.map Node.constantNames = [["w"], [], [], ["b", "w"]] ∧
      ((((movingStart.foldConstants movingKnowledge).run []).1.graph.bypassNops
        movingKnowledge).run []).1.1.graph.live.map (fun node => (node.inputs, node.constantNames)) =
        [(["q", "s"], ["s"]), (["r", "w", "b", "w"], ["b", "w"])] ∧
      movingStart.AttachesConstants ∧
      ((movingStart.foldConstants movingKnowledge).run []).1.graph.AttachesConstants ∧
      ((((movingStart.foldConstants movingKnowledge).run []).1.graph.bypassNops
        movingKnowledge).run []).1.1.graph.AttachesConstants := by
  have built : build moving = .ok movingStart := rfl
  have unwritten : ∀ origin ∈ moving.nodes, ∀ tensor ∈ origin.outputs, tensor ≠ "" →
      moving.initializers.contains tensor = false := by decide +kernel
  exact ⟨by decide +kernel, by decide +kernel,
    attachesConstants_simplify built unwritten movingKnowledge movingKnowledge [] []⟩

end StaticNet.Graph
