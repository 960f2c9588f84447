import StaticNet.Proofs.Graph.Exact
import StaticNet.Proofs.Program.Lowering
import StaticNet.Proofs.Program.Rendering

/-! # Members of the network class

The generated code declares members for the buffers that it holds and for its layer objects: the
shape of every buffer and the name of every object get a suffix, and the tensor of a buffer that the
network owns has the name of the buffer. Fresh names keep buffers apart from buffers and objects
from objects, but they are chosen before the suffixes are added. So the members have different names
exactly when no tensor is named like a shape or like an object.
-/

namespace StaticNet

/-- A member of the network class, which points to an object of a type. -/
structure Member where
  type : String
  name : String
deriving DecidableEq

namespace Member

/-- The line that declares a member. -/
def line (member : Member) : String :=
  "    pico_cnn::naive::" ++ (member.type ++ (" *" ++ (member.name ++ ";\n")))

/-- The lines that declare members. -/
def lines (members : List Member) : String := String.join (members.map line)

theorem line_mk (type name : String) :
    line ⟨type, name⟩ = "    pico_cnn::naive::" ++ (type ++ (" *" ++ (name ++ ";\n"))) := rfl

end Member

/-- The members of a buffer: its shape, and its tensor when the network owns it. -/
def Buffer.members (buffer : Buffer) : List Member :=
  ⟨"TensorShape", buffer.name ++ "_shape"⟩ ::
    if buffer.isOwned then [⟨"Tensor", buffer.name⟩] else []

namespace Layer

/-- Whether a layer is an object. -/
def isObject (layer : Layer) : Bool :=
  match layer.work with
  | .object _ _ => true
  | .statement _ => false

/-- The member of a layer, if it is an object. -/
def members (layer : Layer) : List Member :=
  match layer.work with
  | .object _ kind => [⟨kind.className, layer.identifier ++ "_layer"⟩]
  | .statement _ => []

end Layer

/-! ## The text of declarations -/

section text
open Template

/-- The members of a buffer are declared below a comment with its shape. -/
def Buffer.declaration (buffer : Buffer) : String :=
  "    // " ++ (buffer.dims.text ++ ("\n" ++ Member.lines buffer.members))

/-- The built-in templates declare the members of a buffer. -/
theorem render_declarationCode (buffer : Buffer) :
    buffer.declarationCode.render .builtin = .ok buffer.declaration := by
  have filled : fill Library.bufferDeclaration buffer.declarationCode.parameters =
      .ok ("    // " ++ (buffer.dims.text ++ ("\n    pico_cnn::naive::TensorShape *" ++
        (buffer.name ++ ("_shape;\n" ++ if buffer.isOwned then
          "    pico_cnn::naive::Tensor *" ++ (buffer.name ++ ";\n") else ""))))) := by
    cases owned : buffer.isOwned <;>
      simp [fill, evalAll, Piece.eval, Term.evalAt, Term.eval, Source.eval, Value.render,
        Value.isTrue, Library.bufferDeclaration, Library.text, Library.put, Library.whenSet,
        Buffer.declarationCode, Dict.ofList, owned, bind, Except.bind, pure, Except.pure,
        Except.mapError]
  -- The literal texts of the template, cut where a member has its type, its name and its ending.
  have shape : "\n    pico_cnn::naive::TensorShape *" =
      "\n" ++ ("    pico_cnn::naive::" ++ ("TensorShape" ++ " *")) := by decide +kernel
  have ending : "_shape;\n" = "_shape" ++ ";\n" := by decide +kernel
  have tensor : "    pico_cnn::naive::Tensor *" =
      "    pico_cnn::naive::" ++ ("Tensor" ++ " *") := by decide +kernel
  have named : buffer.declarationCode.template = "memory/buffer_declaration" := rfl
  rw [TemplateCall.render, named, render_builtin (by decide +kernel) rfl, filled, shape, ending,
    tensor, Buffer.declaration, Member.lines, Buffer.members]
  cases buffer.isOwned <;>
    simp only [-String.reduceAppend, if_true, if_false, Bool.false_eq_true, List.map_cons,
      List.map_nil, String.join_cons, String.join_nil, Member.line_mk, String.append_assoc,
      String.append_empty, Except.mapError]

theorem Layer.parameters_object {layer : Layer} {input : String} {kind : ObjectKind}
    (object : layer.work = .object input kind) :
    layer.parameters.get? "identifier" = some (.text layer.identifier) ∧
      layer.parameters.get? "class" = some (.text kind.className) := by
  rw [Layer.parameters, object]
  cases kind <;> simp [ObjectKind.parameters, LayerWindow.parameters, Dict.ofList]

/-- The built-in templates declare the member of a layer object and nothing for a statement. -/
theorem render_call_declaration (layer : Layer) :
    (layer.call .declaration).render .builtin = .ok (Member.lines layer.members) := by
  cases work : layer.work with
  | statement kind =>
    have named : (layer.call .declaration).template = "empty" := by
      simp only [Layer.call, Layer.template, work]
    have none : layer.members = [] := by
      rw [Layer.members, work]
    rw [TemplateCall.render, named, none]
    rfl
  | object input kind =>
    have named : (layer.call .declaration).template = "layers/layer_decl" := by
      simp only [Layer.call, Layer.template, work]
    have one : layer.members = [⟨kind.className, layer.identifier ++ "_layer"⟩] := by
      rw [Layer.members, work]
    have filled : fill Library.layerDeclaration (layer.call .declaration).parameters =
        .ok ("    pico_cnn::naive::" ++ (kind.className ++ (" *" ++
          (layer.identifier ++ "_layer;\n")))) := by
      simp [fill, evalAll, Piece.eval, Term.evalAt, Term.eval, Source.eval, Value.render,
        Library.layerDeclaration, Library.text, Library.put, Layer.call,
        Layer.parameters_object work, bind, Except.bind, pure, Except.pure, Except.mapError]
    have ending : "_layer;\n" = "_layer" ++ ";\n" := by decide +kernel
    rw [TemplateCall.render, named, render_builtin (by decide +kernel) rfl, filled, ending, one,
      Member.lines]
    simp only [-String.reduceAppend, List.map_cons, List.map_nil, String.join_cons,
      String.join_nil, Member.line_mk, String.append_assoc, String.append_empty, Except.mapError]

end text

/-! ## Names with suffixes -/

/-- The names of the members of buffers and layers. -/
def memberNames (buffers : List Buffer) (layers : List Layer) : List String :=
  (buffers.flatMap Buffer.members ++ layers.flatMap Layer.members).map Member.name

/-- A tensor that the network owns is named like the shape of a buffer or like a layer object. -/
def Clashes (buffers : List Buffer) (layers : List Layer) : Prop :=
  ∃ buffer ∈ buffers, buffer.isOwned = true ∧
    ((∃ other ∈ buffers, buffer.name = other.name ++ "_shape") ∨
      ∃ layer ∈ layers, layer.isObject = true ∧ buffer.name = layer.identifier ++ "_layer")

private theorem flatMap_ite_eq {α β : Type} (keep : α → Bool) (view : α → β) (inputs : List α) :
    (inputs.flatMap fun input => if keep input then [view input] else []) =
      (inputs.filter keep).map view := by
  induction inputs with
  | nil => rfl
  | cons input rest ih =>
    rw [List.flatMap_cons, ih, List.filter_cons]
    split <;> rfl

/-- Up to order, the names are those of the shapes, of the tensors and of the objects. -/
theorem memberNames_perm (buffers : List Buffer) (layers : List Layer) :
    (memberNames buffers layers).Perm
      ((buffers.map fun buffer => buffer.name ++ "_shape") ++
        (buffers.filter Buffer.isOwned).map Buffer.name ++
        (layers.filter Layer.isObject).map fun layer => layer.identifier ++ "_layer") := by
  have ofBuffer : ∀ buffer : Buffer, buffer.members.map Member.name =
      (buffer.name ++ "_shape") :: if buffer.isOwned then [buffer.name] else [] := by
    intro buffer
    rw [Buffer.members]
    split <;> rfl
  have ofLayer : ∀ layer : Layer, layer.members.map Member.name =
      if layer.isObject then [layer.identifier ++ "_layer"] else [] := by
    intro layer
    rw [Layer.members, Layer.isObject]
    cases layer.work <;> rfl
  rw [memberNames, List.map_append, List.map_flatMap, List.map_flatMap]
  simp only [ofBuffer, ofLayer, flatMap_ite_eq]
  refine List.Perm.append_right _ ?_
  rw [← flatMap_ite_eq]
  exact (List.map_append_flatMap_perm ..).symm

private theorem suffix_ne (name other : String) : name ++ "_shape" ≠ other ++ "_layer" := by
  intro same
  have last := congrArg (fun text => text.toList.getLast?) same
  simp at last

private theorem table_ne_suffix (table : BindingTable) (name : String) :
    table.name ≠ name ++ "_shape" ∧ table.name ≠ name ++ "_layer" := by
  constructor <;> intro same <;> cases table <;>
    have last := congrArg (fun text => text.toList.getLast?) same <;>
    simp [BindingTable.name] at last

private theorem table_ne_stem (table : BindingTable) (rest : String) :
    table.name ≠ Role.managed.stem ++ rest := by
  intro same
  cases table <;> have first := congrArg (fun text => text.toList.take 2) same <;>
    simp [BindingTable.name, Role.stem] at first

/-- Members are named unlike the weight tables when the names of buffers tell their roles. -/
theorem table_not_mem_memberNames {buffers : List Buffer}
    (stems : ∀ buffer ∈ buffers, ∃ rest, buffer.name = buffer.role.stem ++ rest)
    (layers : List Layer) (table : BindingTable) : table.name ∉ memberNames buffers layers := by
  rw [(memberNames_perm buffers layers).mem_iff, List.mem_append, List.mem_append]
  rintro ((shape | tensor) | object)
  · obtain ⟨buffer, -, same⟩ := List.mem_map.mp shape
    exact (table_ne_suffix table buffer.name).1 same.symm
  · obtain ⟨buffer, kept, same⟩ := List.mem_map.mp tensor
    obtain ⟨member, owned⟩ := List.mem_filter.mp kept
    obtain ⟨rest, named⟩ := stems buffer member
    rw [of_decide_eq_true owned] at named
    exact table_ne_stem table rest (same.symm.trans named)
  · obtain ⟨layer, -, same⟩ := List.mem_map.mp object
    exact (table_ne_suffix table layer.identifier).2 same.symm

/-- When buffers have different names and layers have different identifiers, only a tensor can take
the name of another member. -/
theorem nodup_memberNames_iff {buffers : List Buffer} {layers : List Layer}
    (names : (buffers.map Buffer.name).Nodup) (identifiers : (layers.map Layer.identifier).Nodup) :
    (memberNames buffers layers).Nodup ↔ ¬ Clashes buffers layers := by
  have shapes : (buffers.map fun buffer => buffer.name ++ "_shape").Nodup := by
    have suffixed := names.map (f := fun name => name ++ "_shape")
      fun _ _ same => (String.append_left_inj _).mp same
    rwa [List.map_map] at suffixed
  have tensors : ((buffers.filter Buffer.isOwned).map Buffer.name).Nodup :=
    names.sublist (List.filter_sublist.map _)
  have objects : ((layers.filter Layer.isObject).map fun layer =>
      layer.identifier ++ "_layer").Nodup := by
    have kept : ((layers.filter Layer.isObject).map Layer.identifier).Nodup :=
      identifiers.sublist (List.filter_sublist.map _)
    have suffixed := kept.map (f := fun name => name ++ "_layer")
      fun _ _ same => (String.append_left_inj _).mp same
    rwa [List.map_map] at suffixed
  rw [(memberNames_perm buffers layers).nodup_iff, List.nodup_append, List.nodup_append]
  constructor
  · rintro ⟨⟨-, -, apart⟩, -, others⟩ ⟨buffer, member, owned, clash⟩
    have tensor : buffer.name ∈ (buffers.filter Buffer.isOwned).map Buffer.name :=
      List.mem_map_of_mem (List.mem_filter.mpr ⟨member, owned⟩)
    rcases clash with ⟨other, present, same⟩ | ⟨layer, present, object, same⟩
    · exact apart _ (List.mem_map.mpr ⟨other, present, rfl⟩) _ tensor same.symm
    · exact others _ (List.mem_append_right _ tensor) _
        (List.mem_map.mpr ⟨layer, List.mem_filter.mpr ⟨present, object⟩, rfl⟩) same
  · intro free
    refine ⟨⟨shapes, tensors, ?_⟩, objects, ?_⟩
    · intro shape shapeMember tensor tensorMember same
      obtain ⟨other, present, rfl⟩ := List.mem_map.mp shapeMember
      obtain ⟨buffer, kept, rfl⟩ := List.mem_map.mp tensorMember
      obtain ⟨member, owned⟩ := List.mem_filter.mp kept
      exact free ⟨buffer, member, owned, .inl ⟨other, present, same.symm⟩⟩
    · intro name nameMember object objectMember same
      obtain ⟨layer, kept, rfl⟩ := List.mem_map.mp objectMember
      obtain ⟨present, isObject⟩ := List.mem_filter.mp kept
      rcases List.mem_append.mp nameMember with shape | tensor
      · obtain ⟨other, -, rfl⟩ := List.mem_map.mp shape
        exact suffix_ne _ _ same
      · obtain ⟨buffer, kept, rfl⟩ := List.mem_map.mp tensor
        obtain ⟨member, owned⟩ := List.mem_filter.mp kept
        exact free ⟨buffer, member, owned, .inr ⟨layer, present, isObject, same⟩⟩

/-- The layers of different nodes have different identifiers. -/
theorem BufferPool.Fits.nodup_identifiers {graph : Graph} {pool : BufferPool}
    (fits : pool.Fits graph) {tasks : List Task}
    (identified : ∀ task ∈ tasks,
      pool.layers.lookup task.node.id = some task.layer.identifier)
    (ids : (tasks.map fun task => task.node.id).Nodup) :
    (tasks.map fun task => task.layer.identifier).Nodup := by
  refine ids.of_map.map_on fun first firstListed second secondListed same => ?_
  refine List.inj_on_of_nodup_map ids firstListed secondListed (fits.id_eq
    (identified first firstListed) ((identified second secondListed).trans ?_))
  exact congrArg some same.symm

/-! ## The declared members -/

namespace Emission

variable {graph : Graph} {before after : BufferPool}

/-- The drafts that declare something. -/
def declarations (drafts : List Draft) : List Draft :=
  drafts.filter fun draft => draft.phase = .declaration

/-- The owned buffers belong to different tensors, which have been seen. Each of them is declared
once, and so is the layer of each task. -/
structure Collection.Lists (tasks : List Task) (state : Collection) : Prop where
  tensors : (state.owned.map Buffer.tensor).Nodup
  seen : ∀ buffer ∈ state.owned, buffer.tensor ∈ state.seen
  declared : (declarations state.drafts).Perm
    (state.owned.map (fun buffer => bufferDraft .declaration buffer buffer.declarationCode) ++
      tasks.map (layerDraft .declaration))

namespace Collection.Lists

variable {tasks : List Task} {state : Collection}

theorem hold (lists : state.Lists tasks) {buffer : Buffer} (unseen : buffer.tensor ∉ state.seen)
    (allocation : TemplateCall) : (state.hold buffer allocation).Lists tasks where
  tensors := by
    rw [Collection.hold, List.map_append, List.map_singleton, ← List.concat_eq_append]
    refine lists.tensors.concat fun member => unseen ?_
    obtain ⟨other, owned, same⟩ := List.mem_map.mp member
    exact same ▸ lists.seen other owned
  seen := by
    intro other member
    rcases List.mem_append.mp member with earlier | last
    · exact List.mem_cons_of_mem _ (lists.seen other earlier)
    · obtain rfl := List.mem_singleton.mp last
      exact List.mem_cons_self ..
  declared := by
    have pair : declarations [bufferDraft .declaration buffer buffer.declarationCode,
        bufferDraft .allocation buffer allocation] =
          [bufferDraft .declaration buffer buffer.declarationCode] := rfl
    rw [Collection.hold, declarations, List.filter_append, ← declarations, ← declarations, pair,
      List.map_append, List.map_singleton, List.append_assoc]
    refine (lists.declared.append_right _).trans ?_
    rw [List.append_assoc]
    exact List.perm_append_comm.append_left _

theorem count (lists : state.Lists tasks) (table : BindingTable) :
    (state.count table).Lists tasks := by
  cases table <;> exact ⟨lists.tensors, lists.seen, lists.declared⟩

theorem layer (lists : state.Lists tasks) (task : Task) :
    (state.layer task).Lists (tasks ++ [task]) where
  tensors := lists.tensors
  seen := lists.seen
  declared := by
    have pair : declarations [layerDraft .declaration task, layerDraft .allocation task] =
        [layerDraft .declaration task] := rfl
    rw [Collection.layer, declarations, List.filter_append, ← declarations, ← declarations, pair,
      List.map_append, List.map_singleton, ← List.append_assoc]
    exact lists.declared.append_right _

end Collection.Lists

/-- Nothing is declared after the layers. -/
theorem declarations_closing (tasks : List Task) (owned : List Buffer) :
    declarations (closing graph tasks owned) = [] := by
  refine List.filter_eq_nil_iff.mpr fun draft member => ?_
  rw [closing, List.mem_append, List.mem_append] at member
  rcases member with (execution | deletion) | cleanup
  · obtain ⟨task, -, listed⟩ := List.mem_flatMap.mp execution
    rcases List.mem_pair.mp listed with rfl | rfl <;> simp [layerDraft]
  · obtain ⟨task, -, rfl⟩ := List.mem_map.mp deletion
    simp [layerDraft]
  · obtain ⟨buffer, -, rfl⟩ := List.mem_map.mp cleanup
    simp [bufferDraft]

/-- A collection declares the buffers that it owns, and the layers of its tasks. -/
theorem lists_collect {tasks : List Task} {collection : Collection}
    (assigns : Assigns (collect graph tasks) before collection after) : collection.Lists tasks := by
  have start : Collection.empty.Lists [] :=
    ⟨List.nodup_nil, fun _ member => (nomatch member), .refl _⟩
  obtain ⟨all, lists, rfl⟩ := collect_induction (fun tasks state => state.Lists tasks) start
    (fun _ _ _ allocation unseen _ lists => lists.hold unseen allocation)
    (fun _ _ table lists => lists.count table) (fun _ _ task lists => lists.layer task) assigns
  refine ⟨lists.tensors, lists.seen, ?_⟩
  rw [declarations, List.filter_append, ← declarations, ← declarations, declarations_closing,
    List.append_nil]
  exact lists.declared

end Emission

namespace Compilation

/-- The layers of a compiled network. -/
def layers (compilation : Compilation) : List Layer := compilation.tasks.map Task.layer

/-- The texts of the fragments that declare something. -/
def declarationTexts (compilation : Compilation) : List String :=
  (compilation.program.fragments.filter fun fragment => fragment.phase = .declaration).map
    Fragment.text

/-- A compiled network declares buffers, those of the tensors that it holds, and its layers. The
buffers and the identifiers of the layers have been assigned in its pool. With the built-in
templates, what it declares are the members of the buffers and of the layers. -/
structure Declares (compiler : Compiler) (compilation : Compilation) (buffers : List Buffer) :
    Prop where
  assigned : ∀ buffer ∈ buffers, compilation.pool.find? buffer.tensor = some buffer
  held : ∀ tensor, (∃ buffer ∈ buffers, buffer.tensor = tensor) ↔
    tensor ∈ Emission.held compilation.graph compilation.tasks
  nodes : compilation.tasks.map Task.node = compilation.graph.live
  identified : ∀ task ∈ compilation.tasks,
    compilation.pool.layers.lookup task.node.id = some task.layer.identifier
  texts : compiler.renderer = .builtin → compilation.declarationTexts.Perm
    ((buffers.map Buffer.declaration ++ compilation.layers.map fun layer =>
      Member.lines layer.members).filter (· ≠ ""))

end Compilation

namespace Emission

theorem text_comp_bufferDraft : Draft.text .builtin ∘
    (fun buffer => bufferDraft .declaration buffer buffer.declarationCode) =
      Buffer.declaration := by
  funext buffer
  rw [Function.comp_apply, Draft.text, bufferDraft, render_declarationCode]
  rfl

theorem text_comp_layerDraft : Draft.text .builtin ∘ layerDraft .declaration =
    (fun layer => Member.lines layer.members) ∘ Task.layer := by
  funext task
  rw [Function.comp_apply, Draft.text, layerDraft, render_call_declaration]
  rfl

/-- The texts of the declarations are those of the drafts that declare something, up to order. -/
theorem declarations_rendered {cancelled : Bool} {drafts declared : List Draft}
    {fragments : List Fragment} (rendered : render .builtin cancelled drafts = .ok fragments)
    (listed : (declarations drafts).Perm declared) :
    ((fragments.filter fun fragment => fragment.phase = .declaration).map Fragment.text).Perm
      ((declared.map (Draft.text .builtin)).filter (· ≠ "")) := by
  have texts : (fragments.filter fun fragment => fragment.phase = .declaration).map Fragment.text =
      ((declarations drafts).map (Draft.text .builtin)).filter (· ≠ "") := by
    rw [render_spec rendered, declarations, List.filter_filter, List.filter_map, List.filter_map,
      List.filter_filter, List.map_map]
    congr 2
    exact funext fun draft => Bool.and_comm ..
  rw [texts]
  exact (listed.map _).filter _

end Emission

namespace Compiler

/-- The members that a compiled network declares are named unlike the weight tables. Their names
are different unless a tensor of the network is named like the shape of another buffer or like a
layer object. -/
theorem members_nodup_iff {compiler : Compiler} {spec : GraphSpec} {journal : Journal}
    {compilation : Compilation}
    (compiled : ((compiler.compile spec).run.run journal).1 = .ok compilation) :
    ∃ buffers, compilation.Declares compiler buffers ∧
      (∀ table : BindingTable, table.name ∉ memberNames buffers compilation.layers) ∧
      ((memberNames buffers compilation.layers).Nodup ↔ ¬ Clashes buffers compilation.layers) := by
  obtain ⟨lowering, lowered, graph, pool, tasks, program⟩ := compile_spec (.of_run compiled)
  obtain ⟨collection, ⟨-, rendered⟩, sound⟩ := sound_of_lowered lowered
  obtain ⟨before, after, collected, -, finished⟩ := sound.collected
  obtain ⟨-, complete, seen⟩ := Emission.complete_collect collected
  have lists := Emission.lists_collect collected
  have assigned : ∀ buffer ∈ collection.owned, lowering.pool.find? buffer.tensor = some buffer :=
    fun buffer member => finished.find? (complete.owned buffer member)
  have pooled : ∀ buffer ∈ collection.owned, buffer ∈ lowering.pool.buffers :=
    fun buffer member => (BufferPool.tensor_of_find? (assigned buffer member)).1
  have names : (collection.owned.map Buffer.name).Nodup :=
    sound.fits.nodup_names assigned lists.tensors
  have identified : ∀ task ∈ lowering.tasks,
      lowering.pool.layers.lookup task.node.id = some task.layer.identifier :=
    fun task scheduled => (sound.serves task scheduled).identified
  have identifiers : ((lowering.tasks.map Task.layer).map Layer.identifier).Nodup := by
    have live := sound.settled.placed.nodup_map_id
    rw [← sound.nodes, List.map_map] at live
    rw [List.map_map]
    exact sound.fits.nodup_identifiers identified live
  rw [Compilation.layers, tasks]
  refine ⟨collection.owned, ⟨?_, ?_, ?_, ?_, ?_⟩, ?_, nodup_memberNames_iff names identifiers⟩
  · rwa [pool]
  · rw [graph, tasks]
    exact fun tensor => (complete.seen tensor).symm.trans (seen tensor)
  · rw [graph, tasks]
    exact sound.nodes
  · rwa [pool, tasks]
  · intro plain
    rw [plain] at rendered
    rw [Compilation.declarationTexts, Compilation.layers, program, tasks]
    have texts := Emission.declarations_rendered rendered lists.declared
    rwa [List.map_append, List.map_map, List.map_map, Emission.text_comp_bufferDraft,
      Emission.text_comp_layerDraft, ← List.map_map] at texts
  · exact table_not_mem_memberNames
      (fun buffer member => sound.fits.stems buffer (pooled buffer member)) _

/-! ## Two members of one name -/

/-- A tensor and a layer get the same name, since the suffix of one is part of the other. -/
def namesakes : GraphSpec where
  name := "namesakes"
  nodes := [⟨"buffer_a", "Relu", ["x"], ["a_layer"], .empty⟩,
    ⟨"last", "Relu", ["a_layer"], ["y"], .empty⟩]
  inputs := [⟨"x", 1, some [1, 2]⟩]
  outputs := [⟨"y", 1, some [1, 2]⟩]
  initializers := .empty
  values := []

private theorem compile_namesakes : ∃ compilation,
    ((plainCompiler.compile namesakes).run.run []).1 = .ok compilation ∧
      "a_layer" ∈ Emission.held compilation.graph compilation.tasks ∧
      (compilation.pool.find? "a_layer").map (fun buffer => (buffer.name, buffer.isOwned)) =
        some ("buffer_a" ++ "_layer", true) ∧
      ∃ layer ∈ compilation.layers, layer.isObject = true ∧ layer.identifier = "buffer_a" := by
  have evaluated : (((plainCompiler.compile namesakes).run.run []).1.toOption.any
      fun compilation => decide (
        "a_layer" ∈ Emission.held compilation.graph compilation.tasks ∧
        (compilation.pool.find? "a_layer").map (fun buffer => (buffer.name, buffer.isOwned)) =
          some ("buffer_a" ++ "_layer", true) ∧
        ∃ layer ∈ compilation.layers, layer.isObject = true ∧
          layer.identifier = "buffer_a")) = true := by
    decide +kernel
  obtain ⟨compilation, compiled, holds⟩ := Outcome.eq_ok_of_any evaluated
  exact ⟨compilation, compiled, of_decide_eq_true holds⟩

/-- The network declares the tensor and the layer object under the same name. -/
theorem not_nodup_namesakes : ∃ compilation buffers,
    ((plainCompiler.compile namesakes).run.run []).1 = .ok compilation ∧
      compilation.Declares plainCompiler buffers ∧ Clashes buffers compilation.layers ∧
      ¬ (memberNames buffers compilation.layers).Nodup := by
  obtain ⟨compilation, compiled, held, assigned, layer, listed, object, named⟩ := compile_namesakes
  obtain ⟨buffers, declares, -, distinct⟩ := members_nodup_iff compiled
  obtain ⟨buffer, member, same⟩ := (declares.held "a_layer").mpr held
  have found := declares.assigned buffer member
  rw [same] at found
  rw [found, Option.map_some, Option.some.injEq, Prod.mk.injEq] at assigned
  have clashes : Clashes buffers compilation.layers :=
    ⟨buffer, member, assigned.2, .inr ⟨layer, listed, object, named ▸ assigned.1⟩⟩
  exact ⟨compilation, buffers, compiled, declares, clashes,
    fun nodup => distinct.mp nodup clashes⟩

end Compiler

end StaticNet
