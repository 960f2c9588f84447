import StaticNet.Proofs.Program.Lowering

/-! # Buffers that layers can rely on

A layer refers to buffers of the operands of its node, whereas the emitter decides on its own which
buffers the generated code has. A reference can be relied on unless its tensor is unheld: absent or
constant, and kept for no reason of its own. This happens to a constant that only layers without
weights read.
-/

namespace StaticNet

namespace Emission

/-- A stored output of a node is its first one, or a declared one, or one that is read. -/
theorem mem_storedOutputs_iff (graph : Graph) (node : Node) (tensor : String) :
    tensor ∈ storedOutputs graph node ↔ tensor ≠ "" ∧ ∃ index, node.outputs[index]? = some tensor ∧
      (index = 0 ∨ graph.isOutput tensor = true ∨ graph.consumersOf tensor ≠ []) := by
  have needed : ∀ index, (tensor ≠ "" && (index = 0 || graph.isOutput tensor ||
      !(graph.consumersOf tensor).isEmpty)) = true ↔ tensor ≠ "" ∧
        (index = 0 ∨ graph.isOutput tensor = true ∨ graph.consumersOf tensor ≠ []) := by
    simp [or_assoc]
  rw [storedOutputs, List.mem_map]
  constructor
  · rintro ⟨⟨output, index⟩, kept, rfl⟩
    obtain ⟨listed, filtered⟩ := List.mem_filter.mp kept
    obtain ⟨present, reason⟩ := (needed index).mp filtered
    exact ⟨present, index, List.mem_zipIdx_iff_getElem?.mp listed, reason⟩
  · rintro ⟨present, index, position, reason⟩
    exact ⟨(tensor, index), List.mem_filter.mpr ⟨List.mem_zipIdx_iff_getElem?.mpr position,
      (needed index).mpr ⟨present, reason⟩⟩, rfl⟩

/-- The held tensors are the graph inputs, and the weights and the stored outputs of tasks. -/
theorem mem_held_iff (graph : Graph) (tasks : List Task) (tensor : String) :
    tensor ∈ held graph tasks ↔ graph.isInput tensor = true ∨ ∃ task ∈ tasks,
      (task.node.holdsWeights = true ∧ tensor ∈ task.node.constantNames) ∨
        tensor ∈ storedOutputs graph task.node := by
  rw [held, List.mem_append, ← Graph.isInput_iff, List.mem_flatMap]
  refine or_congr_right (exists_congr fun task => and_congr_right fun _ => ?_)
  rw [heldBy, List.mem_append]
  refine or_congr_left ?_
  split <;> simp [*]

end Emission

namespace Compiler

namespace Lowering

/-- A name is known to the generated code: it is among the given parameters of the run function, or
it is the name of a buffer that is both declared and constructed. -/
def Available (collection : Emission.Collection) (parameters : List String) (name : String) :
    Prop :=
  name ∈ parameters ∨ (∃ draft ∈ collection.drafts, draft.Declares name) ∧
    ∃ draft ∈ collection.drafts, draft.Allocates name

/-- Nothing makes the generated code hold a buffer for a tensor: it is absent or constant, neither
an input nor an output of the network, and neither a weight nor a stored output of a task. -/
structure Unheld (lowering : Lowering) (tensor : String) : Prop where
  sourceless : tensor = "" ∨ lowering.simplification.graph.isConstant tensor = true
  given : lowering.simplification.graph.isInput tensor = false
  declared : lowering.simplification.graph.isOutput tensor = false
  weights : ∀ task ∈ lowering.tasks, task.node.holdsWeights = true →
    tensor ∉ task.node.constantNames
  outputs : ∀ task ∈ lowering.tasks,
    tensor ∉ Emission.storedOutputs lowering.simplification.graph task.node

variable {lowering : Lowering} {collection : Emission.Collection} {tensor : String}

/-- An operand of a task is absent, constant, given, or a stored output of a task. -/
theorem Sound.operand_cases (sound : lowering.Sound collection) {task : Task}
    (scheduled : task ∈ lowering.tasks) (operand : tensor ∈ task.node.operands) :
    tensor = "" ∨ lowering.simplification.graph.isConstant tensor = true ∨
      lowering.simplification.graph.isInput tensor = true ∨ ∃ producer ∈ lowering.tasks,
        tensor ∈ Emission.storedOutputs lowering.simplification.graph producer.node := by
  by_cases present : tensor = ""
  · exact .inl present
  have live : task.node ∈ lowering.simplification.graph.live :=
    sound.nodes ▸ List.mem_map_of_mem scheduled
  rcases List.mem_append.mp operand with input | output
  · have read : tensor ∈ task.node.inputs := (List.mem_cons.mp input).resolve_left present
    cases sound.sources task scheduled tensor read with
    | absent same => exact .inl same
    | attached known =>
      obtain ⟨value, found⟩ := Option.isSome_iff_exists.mp known
      have shared := sound.settled.shares task.node live tensor value found
      exact .inr (.inl (Graph.isConstant_iff.mpr ⟨value, shared⟩))
    | constant known => exact .inr (.inl known)
    | given listed =>
      obtain ⟨edge, member, rfl⟩ := List.mem_map.mp listed
      exact .inr (.inr (.inl (List.find?_isSome.mpr ⟨edge, member, decide_eq_true rfl⟩)))
    | produced node member wrote =>
      -- What another task produces is read here, so it is stored.
      obtain ⟨producer, listed, rfl⟩ := List.mem_map.mp (sound.nodes ▸ member)
      obtain ⟨index, position⟩ := List.mem_iff_getElem?.mp wrote
      have reader := sound.settled.readers.mem_consumersOf sound.settled.placed live
        (List.mem_filter.mpr ⟨read, decide_eq_true present⟩)
      have stored := (Emission.mem_storedOutputs_iff _ producer.node tensor).mpr
        ⟨present, index, position, .inr (.inr (List.ne_nil_of_mem reader))⟩
      exact .inr (.inr (.inr ⟨producer, listed, stored⟩))
  · have first : task.node.outputs[0]? = some tensor := by
      cases written : task.node.outputs with
      | nil => simp [written] at output
      | cons head rest => simpa [written, eq_comm] using output
    have stored :=
      (Emission.mem_storedOutputs_iff lowering.simplification.graph task.node tensor).mpr
        ⟨present, 0, first, .inl rfl⟩
    exact .inr (.inr (.inr ⟨task, scheduled, stored⟩))

/-- Apart from declared outputs, the program holds just the operands that are not unheld. -/
theorem Sound.held_or_declared_iff (sound : lowering.Sound collection) {task : Task}
    (scheduled : task ∈ lowering.tasks) (operand : tensor ∈ task.node.operands) :
    tensor ∈ Emission.held lowering.simplification.graph lowering.tasks ∨
        lowering.simplification.graph.isOutput tensor = true ↔ ¬ lowering.Unheld tensor := by
  rw [Emission.mem_held_iff]
  constructor
  · rintro ((given | ⟨other, member, ⟨holds, weight⟩ | output⟩) | declared) unheld
    · exact Bool.false_ne_true (unheld.given.symm.trans given)
    · exact unheld.weights other member holds weight
    · exact unheld.outputs other member output
    · exact Bool.false_ne_true (unheld.declared.symm.trans declared)
  · intro heldUp
    by_contra neither
    obtain ⟨⟨notGiven, notKept⟩, notDeclared⟩ := by simpa only [not_or] using neither
    have outputs : ∀ other ∈ lowering.tasks,
        tensor ∉ Emission.storedOutputs lowering.simplification.graph other.node :=
      fun other member output => notKept ⟨other, member, .inr output⟩
    refine heldUp ⟨?_, Bool.eq_false_iff.mpr notGiven, Bool.eq_false_iff.mpr notDeclared,
      fun other member holds weight => notKept ⟨other, member, .inl ⟨holds, weight⟩⟩, outputs⟩
    rcases sound.operand_cases scheduled operand with
      absent | constant | given | ⟨producer, listed, stored⟩
    · exact .inl absent
    · exact .inr constant
    · exact absurd given notGiven
    · exact absurd stored (outputs producer listed)

private theorem mem_parameters_iff {edges : List Edge} {names : List String} {pool : BufferPool}
    (parameters : List.Forall₂ (fun edge name => pool.Refers name edge.id) edges names)
    (name : String) : name ∈ names ↔ ∃ edge ∈ edges, pool.Refers name edge.id := by
  induction parameters with
  | nil => simp
  | @cons edge first edges names refers others ih =>
    have here : name = first ↔ pool.Refers name edge.id :=
      ⟨fun same => same ▸ refers, fun again => again.name_eq refers⟩
    rw [List.mem_cons, ih, here, List.exists_mem_cons_iff]

/-- The generated code knows the buffer of a tensor when it holds the tensor, or when the tensor is
a declared output. -/
theorem Sound.available_iff (sound : lowering.Sound collection) {names : List String}
    (parameters : List.Forall₂ (fun edge name => lowering.pool.Refers name edge.id)
      (lowering.simplification.graph.inputs ++ lowering.simplification.graph.outputs) names)
    {name : String} (refers : lowering.pool.Refers name tensor) :
    Available collection names name ↔
      tensor ∈ Emission.held lowering.simplification.graph lowering.tasks ∨
        lowering.simplification.graph.isOutput tensor = true := by
  obtain ⟨before, after, collected, fits, finished⟩ := sound.collected
  obtain ⟨-, complete, seen⟩ := Emission.complete_collect collected
  have same : ∀ other, lowering.pool.Refers name other ↔ other = tensor := fun other =>
    ⟨fun again => sound.fits.tensor_eq again refers, fun equal => equal ▸ refers⟩
  have owned : (∃ buffer ∈ collection.owned, buffer.name = name) ↔
      tensor ∈ Emission.held lowering.simplification.graph lowering.tasks := by
    rw [← seen, complete.seen]
    refine exists_congr fun buffer => and_congr_right fun member => ?_
    have stored := finished.find? (complete.owned buffer member)
    rw [← same]
    exact ⟨fun named => ⟨buffer, stored, named⟩,
      fun again => (again.name_eq ⟨buffer, stored, rfl⟩).symm⟩
  have parameter : name ∈ names ↔ lowering.simplification.graph.isInput tensor = true ∨
      lowering.simplification.graph.isOutput tensor = true := by
    rw [mem_parameters_iff parameters]
    simp only [same, List.mem_append, or_and_right, exists_or, Graph.isInput, Graph.isOutput,
      Graph.edgeNamed?, List.find?_isSome, decide_eq_true_eq]
  have given : lowering.simplification.graph.isInput tensor = true →
      tensor ∈ Emission.held lowering.simplification.graph lowering.tasks :=
    fun input => (Emission.mem_held_iff ..).mpr (.inl input)
  rw [Available, complete.declared, complete.constructed, and_self, owned, parameter]
  tauto

end Lowering

/-- A layer refers to buffers of operands of its node, and the generated code knows such a buffer
exactly when its tensor is not unheld. -/
theorem available_iff_not_unheld {compiler : Compiler} {spec : GraphSpec} {journal : Journal}
    {lowering : Lowering}
    (lowered : ((compiler.lowered spec).run.run journal).1 = .ok lowering) :
    ∃ collection names, lowering.RenderedFrom compiler collection ∧
      lowering.program.runParameters =
        ", ".intercalate (names.map fun name => "pico_cnn::naive::Tensor *" ++ name) ∧
      List.Forall₂ (fun edge name => lowering.pool.Refers name edge.id)
        (lowering.simplification.graph.inputs ++ lowering.simplification.graph.outputs) names ∧
      ∀ task ∈ lowering.tasks, ∀ name ∈ task.layer.references, ∃ tensor ∈ task.node.operands,
        lowering.pool.Refers name tensor ∧
          (Lowering.Available collection names name ↔ ¬ lowering.Unheld tensor) := by
  obtain ⟨collection, rendered, sound⟩ := sound_of_lowered (.of_run lowered)
  obtain ⟨names, text, parameters⟩ := sound.parameters
  refine ⟨collection, names, rendered, text, parameters, fun task scheduled name member => ?_⟩
  obtain ⟨tensor, operand, refers⟩ :=
    (sound.serves task scheduled).refers name member (Layer.ne_empty_of_mem_references member)
  exact ⟨tensor, operand, refers,
    (sound.available_iff parameters refers).trans (sound.held_or_declared_iff scheduled operand)⟩

/-! ## A reference to an unknown buffer -/

/-- A layer without weights that reads a constant. -/
def constantClip : GraphSpec where
  name := "clip"
  nodes := [⟨"clip", "Clip", ["w"], ["y"], .empty⟩]
  inputs := [⟨"x", 1, some [1, 2]⟩]
  outputs := [⟨"y", 1, some [1, 2]⟩]
  initializers := Dict.ofList [("w", ⟨some [1, 2], .float32, [.ofInt 1, .ofInt 2], 0⟩)]
  values := []

private theorem evaluated_constantClip :
    ((plainCompiler.lowered constantClip).run.run []).1.toOption.any (fun lowering =>
      (∃ task ∈ lowering.tasks, "buffer_w" ∈ task.layer.references ∧
        task.node.input 0 ≠ "" ∧ task.node.output 0 ≠ "" ∧ ∀ tensor ∈ task.node.operands,
          (lowering.pool.find? tensor).map Buffer.name = some "buffer_w" → tensor = "w") ∧
      lowering.simplification.graph.isConstant "w" = true ∧
      lowering.simplification.graph.isInput "w" = false ∧
      lowering.simplification.graph.isOutput "w" = false ∧
      (∀ task ∈ lowering.tasks, task.node.holdsWeights = true → "w" ∉ task.node.constantNames) ∧
      ∀ task ∈ lowering.tasks,
        "w" ∉ Emission.storedOutputs lowering.simplification.graph task.node) = true := by
  decide +kernel

private theorem isSome_constantClip :
    ((plainCompiler.lowered constantClip).run.run []).1.toOption.isSome = true :=
  Option.isSome_of_any evaluated_constantClip

/-- What becomes of the layer. -/
def clipLowering : Lowering :=
  ((plainCompiler.lowered constantClip).run.run []).1.toOption.get isSome_constantClip

/-- The layer reads the constant from a buffer that the generated code does not know. -/
theorem not_available_constantClip :
    ∃ task ∈ clipLowering.tasks, "buffer_w" ∈ task.layer.references ∧
      task.node.input 0 ≠ "" ∧ task.node.output 0 ≠ "" ∧
      ∃ collection names, clipLowering.RenderedFrom plainCompiler collection ∧
        clipLowering.program.runParameters =
          ", ".intercalate (names.map fun name => "pico_cnn::naive::Tensor *" ++ name) ∧
        ¬ Lowering.Available collection names "buffer_w" := by
  have lowered : ((plainCompiler.lowered constantClip).run.run []).1 = .ok clipLowering :=
    Outcome.eq_ok_get isSome_constantClip
  obtain ⟨collection, names, rendered, text, -, available⟩ := available_iff_not_unheld lowered
  have evaluated := Outcome.of_any evaluated_constantClip lowered
  obtain ⟨⟨task, scheduled, referenced, input, output, only⟩, constant, given, declared, weights,
    outputs⟩ := of_decide_eq_true evaluated
  obtain ⟨tensor, operand, ⟨buffer, found, named⟩, known⟩ :=
    available task scheduled "buffer_w" referenced
  obtain rfl := only tensor operand (by rw [found, Option.map_some, named])
  have unheld : clipLowering.Unheld "w" := ⟨.inr constant, given, declared, weights, outputs⟩
  exact ⟨task, scheduled, referenced, input, output, collection, names, rendered, text,
    fun knows => known.mp knows unheld⟩

end Compiler

end StaticNet
