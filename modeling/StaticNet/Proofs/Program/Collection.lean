import StaticNet.Program.Emission
import StaticNet.Proofs.Storage.Assignment

/-! # What is collected

A collection declares and constructs the buffers of the tensors that it has seen, and no others.
Those tensors are the graph inputs, the stored outputs of the tasks, and the constants of the tasks
that hold weights.
-/

namespace StaticNet

namespace Draft

/-- The draft declares the buffer of a name. -/
def Declares (draft : Draft) (name : String) : Prop :=
  draft.phase = .declaration ∧ draft.call.template = "memory/buffer_declaration" ∧
    draft.call.parameters.get? "name" = some (.text name)

/-- The draft constructs the buffer of a name, as it is or as a weight. -/
def Allocates (draft : Draft) (name : String) : Prop :=
  draft.phase = .allocation ∧
    (draft.call.template = "memory/buffer_allocation" ∨
      draft.call.template = "memory/kernel_allocation") ∧
    draft.call.parameters.get? "name" = some (.text name)

/-- The templates that declare and construct buffers. -/
def bufferTemplates : List String :=
  ["memory/buffer_declaration", "memory/buffer_allocation", "memory/kernel_allocation"]

/-- The draft neither declares nor constructs a buffer. -/
def Bufferless (draft : Draft) : Prop := draft.call.template ∉ bufferTemplates

theorem Bufferless.not_declares {draft : Draft} (bufferless : draft.Bufferless) (name : String) :
    ¬ draft.Declares name :=
  fun declares => bufferless (declares.2.1 ▸ List.mem_cons_self ..)

theorem Bufferless.not_allocates {draft : Draft} (bufferless : draft.Bufferless) (name : String) :
    ¬ draft.Allocates name := by
  rintro ⟨-, plain | weight, -⟩
  · exact bufferless (plain ▸ by simp [bufferTemplates])
  · exact bufferless (weight ▸ by simp [bufferTemplates])

end Draft

/-- No template of a layer is one of a buffer. -/
theorem Layer.template_notMem (layer : Layer) (phase : Phase) :
    layer.template phase ∉ Draft.bufferTemplates := by
  rw [Draft.bufferTemplates]
  obtain ⟨node, identifier, output, work⟩ := layer
  cases work with
  | object input kind =>
    cases phase with
    | allocation =>
      cases kind with
      | convolution axes => cases axes <;> simp [template, ObjectKind.allocationTemplate]
      | _ => simp [template, ObjectKind.allocationTemplate]
    | _ => simp [template]
  | statement kind =>
    cases phase with
    | execution => cases kind <;> simp [template, StatementKind.template]
    | _ => simp [template]

namespace Emission

variable {graph : Graph} {before after : BufferPool} {state next : Collection}

/-! ## Single drafts -/

/-- The declaration of a buffer declares its name and constructs nothing. -/
theorem declaration_names (buffer : Buffer) (name : String) :
    ((bufferDraft .declaration buffer buffer.declarationCode).Declares name ↔ buffer.name = name) ∧
      ¬ (bufferDraft .declaration buffer buffer.declarationCode).Allocates name := by
  refine ⟨?_, fun allocates => (nomatch allocates.1)⟩
  have named : buffer.declarationCode.parameters.get? "name" = some (.text buffer.name) := by
    simp [Buffer.declarationCode, Dict.ofList]
  rw [Draft.Declares, bufferDraft, named]
  simp [Buffer.declarationCode]

/-- The code of a plain buffer or of a weight constructs the name of its buffer. -/
def Constructs (buffer : Buffer) (allocation : TemplateCall) : Prop :=
  (allocation.template = "memory/buffer_allocation" ∨
    allocation.template = "memory/kernel_allocation") ∧
    allocation.parameters.get? "name" = some (.text buffer.name)

theorem constructs_allocationCode (buffer : Buffer) :
    Constructs buffer buffer.allocationCode := by
  simp [Constructs, Buffer.allocationCode, Dict.ofList]

theorem constructs_bindingCall (buffer : Buffer) (position : Int64) :
    Constructs buffer (buffer.bindingCall position) := by
  simp [Constructs, Buffer.bindingCall, Dict.ofList]

theorem Constructs.names {buffer : Buffer} {allocation : TemplateCall}
    (constructs : Constructs buffer allocation) (name : String) :
    ¬ (bufferDraft .allocation buffer allocation).Declares name ∧
      ((bufferDraft .allocation buffer allocation).Allocates name ↔ buffer.name = name) := by
  refine ⟨fun declares => (nomatch declares.1), ?_⟩
  rw [Draft.Allocates, bufferDraft, constructs.2]
  simp [constructs.1]

theorem bufferless_layerDraft (phase : Phase) (task : Task) :
    (layerDraft phase task).Bufferless := task.layer.template_notMem phase

theorem bufferless_executionDrafts (graph : Graph) (task : Task) :
    ∀ draft ∈ executionDrafts graph task, draft.Bufferless :=
  List.forall_mem_cons.mpr ⟨by simp [Draft.Bufferless, Draft.bufferTemplates, provenance],
    List.forall_mem_singleton.mpr (bufferless_layerDraft .execution task)⟩

/-- The drafts that run and delete the layers and release the buffers. -/
def closing (graph : Graph) (tasks : List Task) (owned : List Buffer) : List Draft :=
  tasks.flatMap (executionDrafts graph) ++ tasks.map (layerDraft .deletion) ++
    owned.map fun buffer => bufferDraft .deletion buffer buffer.cleanupCode

theorem bufferless_closing (graph : Graph) (tasks : List Task) (owned : List Buffer) :
    ∀ draft ∈ closing graph tasks owned, draft.Bufferless := by
  intro draft member
  rcases List.mem_append.mp member with layers | cleanup
  · rcases List.mem_append.mp layers with execution | deletion
    · obtain ⟨task, -, listed⟩ := List.mem_flatMap.mp execution
      exact bufferless_executionDrafts graph task draft listed
    · obtain ⟨task, -, rfl⟩ := List.mem_map.mp deletion
      exact bufferless_layerDraft .deletion task
  · obtain ⟨buffer, -, rfl⟩ := List.mem_map.mp cleanup
    simp [Draft.Bufferless, Draft.bufferTemplates, bufferDraft, Buffer.cleanupCode]

/-! ## Single steps -/

/-- The collection with one more buffer, constructed by the given code. -/
def Collection.hold (state : Collection) (buffer : Buffer) (allocation : TemplateCall) :
    Collection :=
  { state with
    seen := buffer.tensor :: state.seen
    owned := state.owned ++ [buffer]
    drafts := state.drafts ++ [bufferDraft .declaration buffer buffer.declarationCode,
      bufferDraft .allocation buffer allocation] }

/-- A tensor that was not seen before gets a plain buffer. -/
theorem holdBuffer_spec {wrap : StorageError → EmissionError} {tensor : String}
    (assigns : Assigns (holdBuffer graph wrap state tensor) before next after) :
    before.Extends graph after ∧
      (tensor ∈ state.seen ∧ next = state ∨
        tensor ∉ state.seen ∧ ∃ buffer, after.find? tensor = some buffer ∧
          next = state.hold buffer buffer.allocationCode) := by
  rw [holdBuffer] at assigns
  split at assigns
  · next seen =>
    obtain ⟨rfl, rfl⟩ := assigns.of_pure
    exact ⟨.refl, .inl ⟨List.contains_iff_mem.mp seen, rfl⟩⟩
  · next unseen =>
    obtain ⟨buffer, middle, stored, rest⟩ := assigns.of_bind
    obtain ⟨rfl, rfl⟩ := rest.of_pure
    obtain ⟨extended, found, -⟩ := BufferPool.assigns_storedBuffer stored.of_adapt
    refine ⟨extended, .inr ⟨fun seen => unseen (List.contains_iff_mem.mpr seen), buffer, found, ?_⟩⟩
    rw [Collection.hold, (BufferPool.tensor_of_find? found).2]

/-- A constant that was not seen before is bound to the next position of its table. -/
theorem bindWeight_spec {node tensor : String}
    (assigns : Assigns (bindWeight graph node state tensor) before next after) :
    before.Extends graph after ∧
      (tensor ∈ state.seen ∧ next = state ∨
        tensor ∉ state.seen ∧ ∃ buffer, after.find? tensor = some buffer ∧
          (1 ≤ buffer.dims.length ∧ buffer.dims.length ≤ 4) ∧
          next = (state.count buffer.bindingTable).hold buffer
            (buffer.bindingCall (Int64.ofNat (state.bound buffer.bindingTable)))) := by
  rw [bindWeight] at assigns
  split at assigns
  · next seen =>
    obtain ⟨rfl, rfl⟩ := assigns.of_pure
    exact ⟨.refl, .inl ⟨List.contains_iff_mem.mp seen, rfl⟩⟩
  · next unseen =>
    obtain ⟨buffer, middle, stored, rest⟩ := assigns.of_bind
    obtain ⟨extended, found, -⟩ := BufferPool.assigns_storedBuffer stored.of_adapt
    obtain ⟨call, last, bound, done⟩ := rest.of_bind
    obtain ⟨coded, rfl⟩ := bound.of_adapt.of_except
    obtain ⟨rfl, rfl⟩ := done.of_pure
    rw [Buffer.bindingCode] at coded
    split at coded
    · cases coded
    · next ranked =>
      cases coded
      refine ⟨extended, .inr ⟨fun seen => unseen (List.contains_iff_mem.mpr seen), buffer, found,
        by omega, ?_⟩⟩
      rw [Collection.hold, (BufferPool.tensor_of_find? found).2]

/-- A whole collection takes in the graph inputs, then the tasks, and closes. -/
theorem collect_spec {tasks : List Task} {collection : Collection}
    (assigns : Assigns (collect graph tasks) before collection after) :
    ∃ inputs middle all,
      Assigns ((graph.inputs.map Edge.id).foldlM (holdBuffer graph .input) .empty) before inputs
        middle ∧
      Assigns (tasks.foldlM (addTask graph) inputs) middle all after ∧
      collection = { all with drafts := all.drafts ++ closing graph tasks all.owned } := by
  obtain ⟨inputs, middle, first, rest⟩ := assigns.of_bind
  obtain ⟨all, last, second, done⟩ := rest.of_bind
  obtain ⟨rfl, rfl⟩ := done.of_pure
  refine ⟨inputs, middle, all, first, second, ?_⟩
  simp only [closing, List.append_assoc]

/-! ## Induction over a collection -/

/-- The collection with the declaration and the allocation of a layer. -/
def Collection.layer (state : Collection) (task : Task) : Collection :=
  { state with
    drafts := state.drafts ++ [layerDraft .declaration task, layerDraft .allocation task] }

/-- How the buffer of a tensor is constructed: as it is, or as a weight of one of the tasks. -/
inductive Construction (tasks : List Task) (buffer : Buffer) : TemplateCall → Prop
  | plain : Construction tasks buffer buffer.allocationCode
  | weight (task : Task) (position : Int64) : task ∈ tasks →
      buffer.tensor ∈ task.node.constantNames →
      Construction tasks buffer (buffer.bindingCall position)

/-- What holding a new buffer and counting a weight keep, and adding a layer carries on to one more
task, holds of what has been collected before the collection is closed. -/
theorem collect_induction {tasks : List Task} (good : List Task → Collection → Prop)
    (start : good [] .empty)
    (hold : ∀ done (state : Collection) buffer allocation, buffer.tensor ∉ state.seen →
      Construction tasks buffer allocation → good done state →
        good done (state.hold buffer allocation))
    (count : ∀ done (state : Collection) table, good done state → good done (state.count table))
    (layer : ∀ done (state : Collection) task, good done state →
      good (done ++ [task]) (state.layer task))
    {collection : Collection} (assigns : Assigns (collect graph tasks) before collection after) :
    ∃ all, good tasks all ∧
      collection = { all with drafts := all.drafts ++ closing graph tasks all.owned } := by
  have holds : ∀ {wrap done state tensor before next after}, good done state →
      Assigns (holdBuffer graph wrap state tensor) before next after → good done next := by
    intro wrap done state tensor before next after kept assigns
    obtain ⟨-, ⟨-, rfl⟩ | ⟨unseen, buffer, found, rfl⟩⟩ := holdBuffer_spec assigns
    · exact kept
    · exact hold done state buffer _ ((BufferPool.tensor_of_find? found).2 ▸ unseen) .plain kept
  have binds : ∀ {task}, task ∈ tasks → ∀ {done state tensor before next after},
      tensor ∈ task.node.constantNames → good done state →
      Assigns (bindWeight graph task.node.name state tensor) before next after →
      good done next := by
    intro task scheduled done state tensor before next after constant kept assigns
    obtain ⟨-, ⟨-, rfl⟩ | ⟨unseen, buffer, found, -, rfl⟩⟩ := bindWeight_spec assigns
    · exact kept
    · have same := (BufferPool.tensor_of_find? found).2
      refine hold done _ buffer _ ?_ (.weight task _ scheduled (same ▸ constant))
        (count done state _ kept)
      rw [same]
      cases buffer.bindingTable <;> exact unseen
  have adds : ∀ {done state task before next after}, task ∈ tasks → good done state →
      Assigns (addTask graph state task) before next after → good (done ++ [task]) next := by
    intro done state task before next after scheduled kept assigns
    obtain ⟨bound, middle, first, rest⟩ := assigns.of_bind
    obtain ⟨stored, last, second, done⟩ := rest.of_bind
    obtain ⟨rfl, rfl⟩ := done.of_pure
    refine layer _ stored task ?_
    refine Assigns.foldlM_invariant (fun _ => good _) [] (fun _ _ _ _ _ _ _ => holds) ?_ second
    rw [bindWeights] at first
    split at first
    · exact Assigns.foldlM_invariant (fun _ => good _) [] (fun _ _ _ _ _ _ => binds scheduled) kept
        first
    · obtain ⟨rfl, rfl⟩ := first.of_pure
      exact kept
  obtain ⟨inputs, middle, all, first, second, same⟩ := collect_spec assigns
  have opened : good [] inputs :=
    Assigns.foldlM_invariant (fun _ => good []) [] (fun _ _ _ _ _ _ _ => holds) start first
  exact ⟨all, Assigns.foldlM_invariant good [] (fun _ _ _ _ _ _ => adds) opened second, same⟩

/-! ## What a collection holds -/

/-- Every tensor that was seen has one buffer in the pool, which is released with the network, and
the buffers that are declared and constructed are just these. -/
structure Collection.Complete (pool : BufferPool) (state : Collection) : Prop where
  owned : ∀ buffer ∈ state.owned, pool.find? buffer.tensor = some buffer
  seen : ∀ tensor, tensor ∈ state.seen ↔ ∃ buffer ∈ state.owned, buffer.tensor = tensor
  declared : ∀ name, (∃ draft ∈ state.drafts, draft.Declares name) ↔
    ∃ buffer ∈ state.owned, buffer.name = name
  constructed : ∀ name, (∃ draft ∈ state.drafts, draft.Allocates name) ↔
    ∃ buffer ∈ state.owned, buffer.name = name

namespace Collection.Complete

theorem empty (pool : BufferPool) : Collection.empty.Complete pool := by
  constructor <;> simp [Collection.empty]

theorem extend (complete : state.Complete before) (extended : before.Extends graph after) :
    state.Complete after :=
  { complete with owned := fun buffer member => extended.find? (complete.owned buffer member) }

theorem hold (complete : state.Complete after) {buffer : Buffer} {allocation : TemplateCall}
    (found : after.find? buffer.tensor = some buffer) (constructs : Constructs buffer allocation) :
    (state.hold buffer allocation).Complete after where
  owned := by
    intro other member
    rcases List.mem_append.mp member with earlier | last
    · exact complete.owned other earlier
    · rw [List.mem_singleton.mp last, found]
  seen := by
    intro tensor
    simp only [Collection.hold, List.mem_cons, List.mem_append, List.not_mem_nil, or_false,
      or_and_right, exists_or, exists_eq_left, complete.seen]
    rw [eq_comm, or_comm]
  declared := by
    intro name
    simp only [Collection.hold, List.mem_append, List.mem_cons, List.not_mem_nil, or_false,
      or_and_right, exists_or, exists_eq_left, complete.declared, (declaration_names buffer name).1,
      (constructs.names name).1]
  constructed := by
    intro name
    simp only [Collection.hold, List.mem_append, List.mem_cons, List.not_mem_nil, or_false,
      or_and_right, exists_or, exists_eq_left, complete.constructed,
      (declaration_names buffer name).2, (constructs.names name).2, false_or]

theorem count (complete : state.Complete after) (table : BindingTable) :
    (state.count table).Complete after := by
  cases table <;> exact { complete with }

/-- Further drafts that are about no buffer change nothing. -/
theorem append (complete : state.Complete after) {drafts : List Draft}
    (bufferless : ∀ draft ∈ drafts, draft.Bufferless) :
    Complete after { state with drafts := state.drafts ++ drafts } :=
  { complete with
    declared := by
      intro name
      rw [← complete.declared]
      simp only [List.mem_append, or_and_right, exists_or, or_iff_left_iff_imp]
      rintro ⟨draft, member, declares⟩
      exact absurd declares ((bufferless draft member).not_declares name)
    constructed := by
      intro name
      rw [← complete.constructed]
      simp only [List.mem_append, or_and_right, exists_or, or_iff_left_iff_imp]
      rintro ⟨draft, member, allocates⟩
      exact absurd allocates ((bufferless draft member).not_allocates name) }

end Collection.Complete

/-- From one state to another, the pool was extended and the tensors of a list were taken in. -/
structure Takes (graph : Graph) (tensors : List String) (before : BufferPool) (state : Collection)
    (after : BufferPool) (next : Collection) : Prop where
  extends_ : before.Extends graph after
  complete : state.Complete before → next.Complete after
  seen : ∀ tensor, tensor ∈ next.seen ↔ tensor ∈ state.seen ∨ tensor ∈ tensors

namespace Takes

variable {ε α : Type}

theorem refl : Takes graph [] before state before state where
  extends_ := .refl
  complete := fun complete => complete
  seen := by simp

theorem trans {first second : List String} {middle : BufferPool} {between : Collection}
    (start : Takes graph first before state middle between)
    (finish : Takes graph second middle between after next) :
    Takes graph (first ++ second) before state after next where
  extends_ := start.extends_.trans finish.extends_
  complete := fun complete => finish.complete (start.complete complete)
  seen := by
    intro tensor
    rw [finish.seen, start.seen, List.mem_append, or_assoc]

/-- Taking in a tensor that was seen changes nothing. -/
theorem again (extended : before.Extends graph after) {tensor : String}
    (seen : tensor ∈ state.seen) : Takes graph [tensor] before state after state where
  extends_ := extended
  complete := fun complete => complete.extend extended
  seen := by
    intro other
    rw [List.mem_singleton, or_iff_left_of_imp]
    rintro rfl
    exact seen

theorem hold (extended : before.Extends graph after) {tensor : String} {buffer : Buffer}
    {allocation : TemplateCall} (found : after.find? tensor = some buffer)
    (constructs : Constructs buffer allocation) :
    Takes graph [tensor] before state after (state.hold buffer allocation) := by
  have named := (BufferPool.tensor_of_find? found).2
  refine ⟨extended, fun complete => ?_, fun other => ?_⟩
  · exact (complete.extend extended).hold (named ▸ found) constructs
  · rw [Collection.hold, List.mem_cons, List.mem_singleton, named, or_comm]

/-- Counting takes in nothing. -/
theorem count (table : BindingTable) : Takes graph [] before state before (state.count table) where
  extends_ := .refl
  complete := fun complete => complete.count table
  seen := by cases table <;> simp [Collection.count]

/-- A sequence of steps takes in what they take in one by one. -/
theorem foldlM {step : Collection → α → ExceptT ε Allocating Collection}
    {tensors : α → List String}
    (steps : ∀ input before state after next, Assigns (step state input) before next after →
      Takes graph (tensors input) before state after next)
    {inputs : List α} (assigns : Assigns (inputs.foldlM step state) before next after) :
    Takes graph (inputs.flatMap tensors) before state after next := by
  induction inputs generalizing state before with
  | nil =>
    obtain ⟨rfl, rfl⟩ := assigns.of_pure
    exact .refl
  | cons input rest ih =>
    rw [List.foldlM_cons] at assigns
    obtain ⟨between, middle, first, others⟩ := assigns.of_bind
    exact (steps input before state middle between first).trans (ih others)

/-- Steps each of which takes in its input take in all inputs. -/
theorem foldlM_inputs {step : Collection → String → ExceptT ε Allocating Collection}
    (steps : ∀ input before state after next, Assigns (step state input) before next after →
      Takes graph [input] before state after next)
    {inputs : List String} (assigns : Assigns (inputs.foldlM step state) before next after) :
    Takes graph inputs before state after next := by
  have takes := foldlM steps assigns
  rwa [List.flatMap_singleton'] at takes

end Takes

theorem takes_holdBuffer {wrap : StorageError → EmissionError} {tensor : String}
    (assigns : Assigns (holdBuffer graph wrap state tensor) before next after) :
    Takes graph [tensor] before state after next := by
  obtain ⟨extended, ⟨seen, rfl⟩ | ⟨-, buffer, found, rfl⟩⟩ := holdBuffer_spec assigns
  · exact .again extended seen
  · exact .hold extended found (constructs_allocationCode buffer)

theorem takes_bindWeight {node tensor : String}
    (assigns : Assigns (bindWeight graph node state tensor) before next after) :
    Takes graph [tensor] before state after next := by
  obtain ⟨extended, ⟨seen, rfl⟩ | ⟨-, buffer, found, -, rfl⟩⟩ := bindWeight_spec assigns
  · exact .again extended seen
  · exact (Takes.count buffer.bindingTable).trans
      (.hold extended found (constructs_bindingCall buffer _))

/-! ## The whole collection -/

/-- The tensors of a node that the program holds: its weights, and the outputs that are needed. -/
def heldBy (graph : Graph) (node : Node) : List String :=
  (if node.holdsWeights then node.constantNames else []) ++ storedOutputs graph node

/-- The tensors that the program of a schedule holds. -/
def held (graph : Graph) (tasks : List Task) : List String :=
  graph.inputs.map Edge.id ++ tasks.flatMap fun task => heldBy graph task.node

theorem takes_addTask {task : Task}
    (assigns : Assigns (addTask graph state task) before next after) :
    Takes graph (heldBy graph task.node) before state after next := by
  obtain ⟨bound, middle, first, rest⟩ := assigns.of_bind
  obtain ⟨stored, last, second, done⟩ := rest.of_bind
  obtain ⟨rfl, rfl⟩ := done.of_pure
  have weights : Takes graph (if task.node.holdsWeights then task.node.constantNames else [])
      before state middle bound := by
    rw [bindWeights] at first
    split at first
    · next holds =>
      rw [if_pos holds]
      exact .foldlM_inputs (fun _ _ _ _ _ => takes_bindWeight) first
    · next holds =>
      obtain ⟨rfl, rfl⟩ := first.of_pure
      rw [if_neg holds]
      exact .refl
  have outputs : Takes graph (storedOutputs graph task.node) middle bound after stored :=
    .foldlM_inputs (fun _ _ _ _ _ => takes_holdBuffer) second
  obtain ⟨extended, complete, seen⟩ := weights.trans outputs
  refine ⟨extended, fun start => (complete start).append ?_, seen⟩
  simp [bufferless_layerDraft]

/-- The collection of a schedule declares and constructs just the buffers of the tensors that the
program holds. -/
theorem complete_collect {tasks : List Task} {collection : Collection}
    (assigns : Assigns (collect graph tasks) before collection after) :
    before.Extends graph after ∧ collection.Complete after ∧
      ∀ tensor, tensor ∈ collection.seen ↔ tensor ∈ held graph tasks := by
  obtain ⟨inputs, middle, all, first, second, rfl⟩ := collect_spec assigns
  have start : Takes graph (graph.inputs.map Edge.id) before .empty middle inputs :=
    .foldlM_inputs (fun _ _ _ _ _ => takes_holdBuffer) first
  have step : ∀ task before state after next, Assigns (addTask graph state task) before next after →
      Takes graph (heldBy graph task.node) before state after next :=
    fun _ _ _ _ _ => takes_addTask
  obtain ⟨extended, complete, seen⟩ := start.trans (.foldlM step second)
  have closed := (complete (.empty before)).append (bufferless_closing graph tasks all.owned)
  refine ⟨extended, closed, fun tensor => ?_⟩
  rw [seen, held, Collection.empty, or_iff_right List.not_mem_nil]

end Emission

end StaticNet
