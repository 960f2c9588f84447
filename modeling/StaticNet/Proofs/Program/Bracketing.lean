import StaticNet.Proofs.Program.Statement
import StaticNet.Proofs.Simplification.Sources

/-! # Well-bracketed programs

Every buffer that a program holds, and every layer object, is declared, constructed and deleted
once. The fragments that do so stand around those that run the tasks.
-/

namespace StaticNet

/-- A layer object, constructed from arguments after the statements that set them up. -/
structure LayerObject where
  task : Task
  input : String
  kind : ObjectKind
  work : task.layer.work = .object input kind
  setup : List Statement
  arguments : String
  quiet : ∀ statement ∈ setup, statement.deed? = none

/-- What a program holds: a buffer, bound to a position if it is a weight, or a layer object. -/
inductive Resident where
  | storage (buffer : Buffer) (position? : Option Int64)
  | layer (object : LayerObject)

namespace Resident

/-- The buffer of a resident that is one. -/
def buffer? : Resident → Option Buffer
  | .storage buffer _ => some buffer
  | .layer _ => none

/-- The task of a resident that is a layer object. -/
def task? : Resident → Option Task
  | .storage _ _ => none
  | .layer object => some object.task

/-- The owner of the fragments of a resident. -/
def owner : Resident → String
  | .storage buffer _ => buffer.name
  | .layer object => object.task.node.name

/-- The names of the members of a resident. -/
def names : Resident → List String
  | .storage buffer _ => buffer.members.map Member.name
  | .layer object => [object.task.layer.identifier ++ "_layer"]

/-- The statements that declare a resident. -/
def declaring : Resident → List Statement
  | .storage buffer _ => buffer.declaring
  | .layer object => [.declare (object.task.layer.object object.kind)]

/-- The statements that construct a resident. -/
def constructing : Resident → List Statement
  | .storage buffer position? => buffer.constructing position?
  | .layer object =>
      object.setup ++ [.construct (object.task.layer.object object.kind) object.arguments]

/-- The statements that delete a resident. -/
def deleting : Resident → List Statement
  | .storage buffer _ => buffer.deleting
  | .layer object => [.delete (object.task.layer.identifier ++ "_layer")]

/-- The fragments that declare and construct a resident. -/
def opening (resident : Resident) : List Fragment :=
  [⟨.declaration, resident.owner, Statement.code resident.declaring⟩,
    ⟨.allocation, resident.owner, Statement.code resident.constructing⟩]

/-- The fragment that deletes a resident. -/
def closing (resident : Resident) : Fragment :=
  ⟨.deletion, resident.owner, Statement.code resident.deleting⟩

end Resident

/-! ## Printed drafts -/

theorem Statement.text_ne_empty (statement : Statement) : statement.text ≠ "" := by
  intro none
  cases statement with
  | blank => exact absurd none (by decide)
  | _ => exact absurd (String.append_eq_empty_iff.mp none).1 (by decide)

theorem Statement.code_ne_empty {statements : List Statement} (some : statements ≠ []) :
    code statements ≠ "" := by
  cases statements with
  | nil => exact absurd rfl some
  | cons statement rest =>
    rw [code_cons]
    exact fun none => statement.text_ne_empty (String.append_eq_empty_iff.mp none).1

namespace Emission

variable {graph : Graph}

/-- The fragments of drafts that have a text. -/
def printed (drafts : List Draft) : List Fragment :=
  (drafts.map (Draft.fragment .builtin)).filter fun fragment => fragment.text ≠ ""

theorem printed_append (first second : List Draft) :
    printed (first ++ second) = printed first ++ printed second := by
  rw [printed, List.map_append, List.filter_append, ← printed, ← printed]

/-- A draft with a text is a fragment. -/
theorem printed_cons_of_ne (draft : Draft) (drafts : List Draft) {text : String}
    (rendered : draft.call.render .builtin = .ok text) (visible : text ≠ "") :
    printed (draft :: drafts) = ⟨draft.phase, draft.owner, text⟩ :: printed drafts := by
  have same : draft.fragment .builtin = ⟨draft.phase, draft.owner, text⟩ := by
    rw [Draft.fragment, Draft.text, rendered]
    rfl
  rw [printed, List.map_cons, same]
  exact List.filter_cons_of_pos (decide_eq_true visible)

/-- A draft without a text leaves no trace. -/
theorem printed_cons_of_empty (draft : Draft) (drafts : List Draft)
    (rendered : draft.call.render .builtin = .ok "") :
    printed (draft :: drafts) = printed drafts := by
  have same : draft.fragment .builtin = ⟨draft.phase, draft.owner, ""⟩ := by
    rw [Draft.fragment, Draft.text, rendered]
    rfl
  rw [printed, List.map_cons, same]
  exact List.filter_cons_of_neg (by simp)

theorem printed_storage {buffer : Buffer} {allocation : TemplateCall} {position? : Option Int64}
    (constructs : allocation.render .builtin =
      .ok (Statement.code (buffer.constructing position?))) :
    printed [bufferDraft .declaration buffer buffer.declarationCode,
      bufferDraft .allocation buffer allocation] = (Resident.storage buffer position?).opening := by
  have declared := printed_cons_of_ne
    (bufferDraft .declaration buffer buffer.declarationCode)
    [bufferDraft .allocation buffer allocation] buffer.render_declaring
    (Statement.code_ne_empty (List.cons_ne_nil _ _))
  have constructed := printed_cons_of_ne (bufferDraft .allocation buffer allocation) []
    constructs (Statement.code_ne_empty (by cases position? <;> exact List.cons_ne_nil _ _))
  rw [declared, constructed]
  rfl

/-- The two drafts of a layer print the opening of its object, if it is one. -/
theorem printed_layer {task : Task} {allocated : String}
    (rendered : (task.layer.call .allocation).render .builtin = .ok allocated) :
    (task.layer.isObject = false ∧
        printed [layerDraft .declaration task, layerDraft .allocation task] = []) ∨
      ∃ object : LayerObject, object.task = task ∧ task.layer.isObject = true ∧
        printed [layerDraft .declaration task, layerDraft .allocation task] =
          (Resident.layer object).opening := by
  cases work : task.layer.work with
  | statement kind =>
    refine .inl ⟨by rw [Layer.isObject, work], ?_⟩
    have declared := printed_cons_of_empty (layerDraft .declaration task)
      [layerDraft .allocation task] (Layer.render_statement work (by decide))
    have constructed := printed_cons_of_empty (layerDraft .allocation task) []
      (Layer.render_statement work (by decide))
    rw [declared, constructed]
    rfl
  | object input kind =>
    obtain ⟨setup, arguments, quiet, rfl⟩ := Layer.render_constructing work rendered
    refine .inr ⟨⟨task, input, kind, work, setup, arguments, quiet⟩, rfl,
      by rw [Layer.isObject, work], ?_⟩
    have declared := printed_cons_of_ne (layerDraft .declaration task)
      [layerDraft .allocation task] (Layer.render_declaring work)
      (Statement.code_ne_empty (List.cons_ne_nil _ _))
    have constructed := printed_cons_of_ne (layerDraft .allocation task) [] rendered
      (Statement.code_ne_empty (List.append_ne_nil_of_right_ne_nil _ (List.cons_ne_nil _ _)))
    rw [declared, constructed]
    rfl

/-- What a collection has opened so far: the buffers that it owns, and the objects of some tasks.
Its weights are constants of the tasks of the schedule. -/
structure Opened (tasks done : List Task) (state : Collection) (residents : List Resident) :
    Prop where
  fragments : printed state.drafts = residents.flatMap Resident.opening
  buffers : residents.filterMap Resident.buffer? = state.owned
  layers : residents.filterMap Resident.task? = done.filter fun task => task.layer.isObject
  weights : ∀ buffer position, Resident.storage buffer (some position) ∈ residents →
    ∃ task ∈ tasks, buffer.tensor ∈ task.node.constantNames

namespace Opened

variable {tasks done : List Task} {state : Collection} {residents : List Resident}

theorem empty (tasks : List Task) : Opened tasks [] .empty [] :=
  ⟨rfl, rfl, rfl, fun _ _ member => absurd member List.not_mem_nil⟩

theorem hold (opened : Opened tasks done state residents) {buffer : Buffer}
    {allocation : TemplateCall} (construction : Construction tasks buffer allocation) :
    ∃ residents, Opened tasks done (state.hold buffer allocation) residents := by
  have add : ∀ position?, allocation.render .builtin =
        .ok (Statement.code (buffer.constructing position?)) →
      (∀ position, position? = some position →
        ∃ task ∈ tasks, buffer.tensor ∈ task.node.constantNames) →
      Opened tasks done (state.hold buffer allocation)
        (residents ++ [.storage buffer position?]) := by
    intro position? constructs weight
    refine ⟨?_, ?_, ?_, ?_⟩
    · rw [Collection.hold, printed_append, opened.fragments, printed_storage constructs,
        List.flatMap_append, List.flatMap_singleton]
    · rw [List.filterMap_append, opened.buffers]
      rfl
    · rw [List.filterMap_append, opened.layers]
      exact List.append_nil _
    · intro other position member
      rcases List.mem_append.mp member with earlier | last
      · exact opened.weights other position earlier
      · obtain ⟨rfl, same⟩ := Resident.storage.inj (List.mem_singleton.mp last)
        exact weight position same.symm
  cases construction with
  | plain => exact ⟨_, add none buffer.render_constructing fun _ same => by cases same⟩
  | weight task position scheduled constant =>
    exact ⟨_, add (some position) (buffer.render_binding position) fun _ _ =>
      ⟨task, scheduled, constant⟩⟩

theorem count (opened : Opened tasks done state residents) (table : BindingTable) :
    Opened tasks done (state.count table) residents := by
  cases table <;> exact ⟨opened.fragments, opened.buffers, opened.layers, opened.weights⟩

theorem layer (opened : Opened tasks done state residents) {task : Task} {allocated : String}
    (rendered : (task.layer.call .allocation).render .builtin = .ok allocated) :
    ∃ residents, Opened tasks (done ++ [task]) (state.layer task) residents := by
  rcases printed_layer rendered with ⟨statement, nothing⟩ | ⟨object, rfl, isObject, fragments⟩
  · refine ⟨residents, ?_, opened.buffers, ?_, opened.weights⟩
    · rw [Collection.layer, printed_append, opened.fragments, nothing, List.append_nil]
    · rw [List.filter_append, opened.layers, List.filter_singleton, statement]
      exact (List.append_nil _).symm
  · refine ⟨residents ++ [.layer object], ?_, ?_, ?_, ?_⟩
    · rw [Collection.layer, printed_append, opened.fragments, fragments, List.flatMap_append,
        List.flatMap_singleton]
    · rw [List.filterMap_append, opened.buffers]
      exact List.append_nil _
    · rw [List.filterMap_append, List.filter_append, opened.layers, List.filter_singleton, isObject]
      rfl
    · intro other position member
      rcases List.mem_append.mp member with earlier | last
      · exact opened.weights other position earlier
      · cases List.mem_singleton.mp last

end Opened

end Emission

namespace Resident

end Resident

namespace Emission

variable {graph : Graph}

end Emission

/-! ## Whole programs -/

/-- The layer of a node has been selected for it while the pool was being filled. -/
def Layer.SelectedFor (graph : Graph) (node : Node) (pool : BufferPool) (layer : Layer) : Prop :=
  ∃ before after, Assigns (select graph node) before layer after ∧ after.Extends graph pool

theorem Layer.SelectedFor.identified {graph : Graph} {node : Node} {pool : BufferPool}
    {layer : Layer} (selected : layer.SelectedFor graph node pool) :
    pool.layers.lookup node.id = some layer.identifier := by
  obtain ⟨before, after, assigns, extended⟩ := selected
  exact ((ensures_select _ _ _ assigns).2.extend extended).identified

section parts

variable {opening execution closing : List Fragment}

end parts

end StaticNet
