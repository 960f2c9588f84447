import StaticNet.Compiler
import StaticNet.Proofs.Layer.Selection
import StaticNet.Proofs.Program.Collection
import StaticNet.Proofs.Simplification.Bypassing

/-! # What a compiled description went through

A description that is brought down to a program has passed every stage. Its simplified graph still
has what later stages rely on, every live node has become a task with a layer, and the program was
rendered from one collection of drafts.
-/

namespace StaticNet

/-! ## The simplified graph -/

namespace Graph

/-- Nodes stand at their ids and are listed as readers. Their constants have distinct names and
are constants of the graph. -/
structure Settled (graph : Graph) : Prop where
  placed : graph.Placed
  readers : graph.ReadersListed
  shares : graph.SharesConstants
  distinct : graph.KeysDistinct

theorem Settled.withShapes {graph : Graph} (settled : graph.Settled)
    (shapes : Dict (Option Shape)) : { graph with shapes }.Settled :=
  ⟨settled.placed, settled.readers, settled.shares, settled.distinct⟩

/-- Adopting shapes changes nothing but the shape table. -/
theorem adoptShapes_yields {graph : Graph} {propagation : Propagation} {merging : Merging}
    (yields : (graph.adoptShapes propagation).Yields merging) :
    ∃ shapes, merging.graph = { graph with shapes } := by
  have keeps : ∀ (state : Merging) (inferred : String × Option Shape) (next : Merging),
      (∃ shapes, state.graph = { graph with shapes }) → (adoptShape state inferred).Yields next →
      ∃ shapes, next.graph = { graph with shapes } := by
    rintro state ⟨tensor, shape⟩ next ⟨shapes, same⟩ step
    refine ⟨shapes.insert tensor shape, ?_⟩
    rw [adoptShape] at step
    split at step
    · rw [Logged.Yields.of_pure (Logged.Yields.of_report step), same]
      rfl
    · rw [Logged.Yields.of_pure step, same]
      rfl
  exact Logged.Yields.foldlM_invariant keeps ⟨graph.shapes, rfl⟩ yields

/-- Simplifying a graph that has just been built leaves a settled graph. -/
theorem settled_simplify {spec : GraphSpec} {graph : Graph} (built : build spec = .ok graph)
    {propagation : Propagation} {outcome : Simplified × Option SimplifyError}
    (yields : (graph.simplify propagation).Yields outcome) : outcome.1.graph.Settled := by
  have facts := built_of_build built
  obtain ⟨folding, fold, rest⟩ := Logged.Yields.of_bind yields
  obtain ⟨bypassing, bypassed, last⟩ := Logged.Yields.of_bind rest
  obtain ⟨coherent, inStep, distinct⟩ := foldConstants_invariant
    (fun _ _ enriched => enriched.distinct) (fun _ _ shrinks => shrinks.keysDistinct)
    facts.coherent facts.inStep facts.distinct fold
  have keeps : ∀ node before after, Bypasses propagation node before after →
      before.SharesConstants ∧ before.KeysDistinct → after.SharesConstants ∧ after.KeysDistinct :=
    fun _ _ _ bypasses good => ⟨good.1.bypass bypasses, good.2.bypass bypasses⟩
  obtain ⟨placed, readers, shares, kept⟩ := bypassNops_invariant keeps coherent.placed
    coherent.readers ⟨inStep.shares, distinct⟩ bypassed
  rw [Logged.Yields.of_pure last]
  exact ⟨placed, readers, shares, kept⟩

end Graph

/-! ## Schedules -/

namespace Schedule

variable {graph : Graph} {layer? : Nat → Option Layer}

/-- Where an input of a node comes from: it is absent, constant for the node or in the graph,
available from the start, or an output of one of the nodes. -/
inductive Source (graph : Graph) (available : List String) (nodes : List Node) (node : Node)
    (tensor : String) : Prop
  | absent : tensor = "" → Source graph available nodes node tensor
  | attached : node.hasConstant tensor = true → Source graph available nodes node tensor
  | constant : graph.isConstant tensor = true → Source graph available nodes node tensor
  | given : tensor ∈ available → Source graph available nodes node tensor
  | produced (producer : Node) : producer ∈ nodes → tensor ∈ producer.outputs →
      Source graph available nodes node tensor

/-- What a node writes is available to the nodes after it. -/
theorem Source.shift {available : List String} {first node : Node} {nodes : List Node}
    {tensor : String}
    (source : Source graph (first.writes ++ available) nodes node tensor) :
    Source graph available (first :: nodes) node tensor := by
  cases source with
  | absent same => exact .absent same
  | attached known => exact .attached known
  | constant known => exact .constant known
  | given listed =>
    rcases List.mem_append.mp listed with written | earlier
    · exact .produced first (List.mem_cons_self ..) (List.mem_filter.mp written).1
    · exact .given earlier
  | produced producer listed wrote => exact .produced producer (List.mem_cons_of_mem _ listed) wrote

/-- Every input of a node that misses none has a source. -/
theorem source_of_missingInput? {available : List String} {nodes : List Node} {node : Node}
    (complete : missingInput? graph available node = none) {tensor : String}
    (read : tensor ∈ node.inputs) : Source graph available nodes node tensor := by
  have found := List.find?_eq_none.mp complete tensor read
  by_cases absent : tensor = ""
  · exact .absent absent
  by_cases attached : node.hasConstant tensor = true
  · exact .attached attached
  by_cases constant : graph.isConstant tensor = true
  · exact .constant constant
  refine .given ?_
  by_contra missing
  exact found (by simp [absent, attached, constant, missing])

/-- The nodes of a schedule are the given ones, in order. Each has its layer, and each of its inputs
has a source. -/
theorem ofNodes_spec {step : Nat} {available : List String} {nodes : List Node} {tasks : List Task}
    (done : ofNodes graph layer? step available nodes = .ok tasks) :
    tasks.map Task.node = nodes ∧ ∀ task ∈ tasks, layer? task.node.id = some task.layer ∧
      ∀ tensor ∈ task.node.inputs, Source graph available nodes task.node tensor := by
  induction nodes generalizing step available tasks with
  | nil =>
    cases done
    exact ⟨rfl, fun _ member => nomatch member⟩
  | cons node rest ih =>
    rw [ofNodes] at done
    split at done
    · cases done
    next sourced =>
    split at done
    · cases done
    next layer selected =>
    obtain ⟨others, scheduled, same⟩ := Outcome.bind_eq_ok_iff.mp done
    cases same
    obtain ⟨nodes, laid⟩ := ih scheduled
    refine ⟨by rw [List.map_cons, nodes], List.forall_mem_cons.mpr ⟨⟨selected, ?_⟩, ?_⟩⟩
    · exact fun tensor read => source_of_missingInput? sourced read
    · intro task member
      obtain ⟨chosen, sources⟩ := laid task member
      exact ⟨chosen, fun tensor read => (sources tensor read).shift⟩

/-- What holds of the layers that are given for the nodes of a graph holds of the tasks. -/
theorem forall_of_ofGraph {layers : List (Nat × Layer)} {tasks : List Task}
    (good : Node → Layer → Prop) (placed : graph.Placed)
    (each : ∀ given ∈ layers, ∃ node ∈ graph.live, given.1 = node.id ∧ good node given.2)
    (scheduled : ofGraph graph (fun id => layers.lookup id) = .ok tasks) :
    ∀ task ∈ tasks, good task.node task.layer := by
  intro task member
  obtain ⟨nodes, laid⟩ := ofNodes_spec scheduled
  obtain ⟨before, after, same, -⟩ := List.lookup_eq_some_iff.mp (laid task member).1
  obtain ⟨node, live, sameId, holds⟩ := each (task.node.id, task.layer)
    (same ▸ List.mem_append_right _ (List.mem_cons_self ..))
  have own : task.node ∈ graph.live := nodes ▸ List.mem_map_of_mem member
  rwa [placed.eq_of_id own live sameId]

end Schedule

/-! ## The stages -/

namespace Compiler

variable {compiler : Compiler} {spec : GraphSpec} {lowering : Lowering}

/-- The graph of a simplification has been simplified without a stop, and then got its shapes. -/
theorem simplified_spec {graph : Graph} {simplification : Simplification}
    (yields : (simplified graph).run.Yields (.ok simplification)) :
    ∃ propagation reduced shapes, (graph.simplify propagation).Yields (reduced, none) ∧
      simplification.graph = { reduced.graph with shapes } := by
  obtain ⟨first, -, rest⟩ := Logged.Yields.of_bind_ok yields
  obtain ⟨⟨reduced, failure⟩, simplify, rest⟩ := Logged.Yields.of_bind_ok rest
  cases failure with
  | some cause =>
    obtain ⟨_, thrown, -⟩ := Logged.Yields.of_bind_ok rest
    cases Logged.Yields.of_pure thrown
  | none =>
    obtain ⟨second, -, rest⟩ := Logged.Yields.of_bind_ok rest
    obtain ⟨merging, adopt, rest⟩ := Logged.Yields.of_bind_ok rest
    obtain ⟨shapes, adopted⟩ := Graph.adoptShapes_yields (Logged.Yields.of_lift adopt)
    cases Logged.Yields.of_pure rest
    exact ⟨first, reduced, shapes, Logged.Yields.of_lift simplify, adopted⟩

theorem settled_of_simplified {graph : Graph} (built : Graph.build spec = .ok graph)
    {simplification : Simplification}
    (yields : (simplified graph).run.Yields (.ok simplification)) :
    simplification.graph.Settled := by
  obtain ⟨propagation, reduced, shapes, simplify, same⟩ := simplified_spec yields
  rw [same]
  exact (Graph.settled_simplify built simplify).withShapes shapes

/-- A lowering has simplified the graph of its description. The result has an interface, and
lowering it gave the tasks and the program. -/
theorem lowered_spec (yields : (compiler.lowered spec).run.Yields (.ok lowering)) :
    ∃ graph, Graph.build spec = .ok graph ∧
      (simplified graph).run.Yields (.ok lowering.simplification) ∧
      Interface.ofGraph lowering.simplification.graph = .ok lowering.interface ∧
      Assigns (compiler.lower lowering.simplification.graph) .empty
        (lowering.tasks, lowering.program) lowering.pool := by
  obtain ⟨graph, build, rest⟩ := Logged.Yields.of_bind_ok yields
  obtain ⟨_, -, rest⟩ := Logged.Yields.of_bind_ok rest
  obtain ⟨simplification, simplify, rest⟩ := Logged.Yields.of_bind_ok rest
  obtain ⟨_, -, rest⟩ := Logged.Yields.of_bind_ok rest
  obtain ⟨interface, checked, rest⟩ := Logged.Yields.of_bind_ok rest
  obtain ⟨⟨outcome, pool⟩, lowered, rest⟩ := Logged.Yields.of_bind_ok rest
  obtain ⟨⟨tasks, program⟩, done, rest⟩ := Logged.Yields.of_bind_ok rest
  have succeeded := Logged.Yields.of_except done
  cases Logged.Yields.of_pure rest
  have ran := Logged.Yields.of_lift lowered
  rw [succeeded] at ran
  exact ⟨graph, Outcome.mapError_eq_ok_iff.mp (Logged.Yields.of_except build), simplify,
    Outcome.mapError_eq_ok_iff.mp (Logged.Yields.of_except checked), ran⟩

/-- A compilation is a lowering with artifacts. -/
theorem compile_spec {compilation : Compilation}
    (yields : (compiler.compile spec).run.Yields (.ok compilation)) :
    ∃ lowering, (compiler.lowered spec).run.Yields (.ok lowering) ∧
      compilation.graph = lowering.simplification.graph ∧ compilation.pool = lowering.pool ∧
      compilation.tasks = lowering.tasks ∧ compilation.program = lowering.program := by
  obtain ⟨lowering, lowered, rest⟩ := Logged.Yields.of_bind_ok yields
  obtain ⟨_, -, rest⟩ := Logged.Yields.of_bind_ok rest
  obtain ⟨plan, -, rest⟩ := Logged.Yields.of_bind_ok rest
  obtain ⟨_, -, rest⟩ := Logged.Yields.of_bind_ok rest
  obtain ⟨artifacts, -, rest⟩ := Logged.Yields.of_bind_ok rest
  obtain ⟨_, -, rest⟩ := Logged.Yields.of_bind_ok rest
  cases Logged.Yields.of_pure rest
  exact ⟨lowering, lowered, rfl, rfl, rfl, rfl⟩

/-- A graph with an interface has one input and one output. -/
theorem interface_spec {graph : Graph} {interface : Interface}
    (done : Interface.ofGraph graph = .ok interface) :
    ∃ input output, graph.inputs = [input] ∧ graph.outputs = [output] := by
  rw [Interface.ofGraph] at done
  split at done
  · next input output inputs outputs => exact ⟨input, output, inputs, outputs⟩
  · cases done
  · cases done

theorem lower_spec {graph : Graph} {tasks : List Task} {program : Program}
    {before after : BufferPool}
    (assigns : Assigns (compiler.lower graph) before (tasks, program) after) :
    ∃ layers selected collection collected,
      Assigns (selectAll graph) before layers selected ∧
      Schedule.ofGraph graph (fun id => layers.lookup id) = .ok tasks ∧
      Assigns (Emission.collect graph tasks) selected collection collected ∧
      Emission.render compiler.renderer compiler.cancelled collection.drafts =
        .ok program.fragments ∧
      ((Emission.runParameters graph).run collected).Yields (program.runParameters, after) ∧
      program.kernelCount = collection.kernelCount ∧ program.biasCount = collection.biasCount := by
  obtain ⟨layers, selected, select, afterSelect⟩ := assigns.of_bind
  obtain ⟨scheduled, _, schedule, afterSchedule⟩ := afterSelect.of_bind
  obtain ⟨done, rfl⟩ := schedule.of_except
  obtain ⟨emitted, _, emit, last⟩ := afterSchedule.of_bind
  obtain ⟨same, rfl⟩ := last.of_pure
  cases same
  obtain ⟨collection, collected, collect, afterCollect⟩ := emit.of_adapt.of_bind
  obtain ⟨fragments, _, render, afterRender⟩ := afterCollect.of_bind
  obtain ⟨rendered, rfl⟩ := render.of_except
  obtain ⟨text, _, parameters, finish⟩ := afterRender.of_bind
  obtain ⟨rfl, rfl⟩ := finish.of_pure
  exact ⟨layers, _, collection, _, select.of_adapt, Outcome.mapError_eq_ok_iff.mp done, collect,
    rendered, parameters.of_lift, rfl, rfl⟩

private theorem mapM_parameter_spec {graph : Graph} {edges : List Edge} {before after : BufferPool}
    {texts : List String}
    (yields : ((edges.mapM fun edge => do
      return "pico_cnn::naive::Tensor *" ++ (← BufferPool.buffer graph edge.id).name :
        Allocating (List String)).run before).Yields (texts, after)) :
    before.Extends graph after ∧ ∃ names,
      texts = names.map (fun name => "pico_cnn::naive::Tensor *" ++ name) ∧
        List.Forall₂ (fun edge name => after.Refers name edge.id) edges names := by
  induction edges generalizing before texts with
  | nil =>
    cases Logged.Yields.of_pure yields
    exact ⟨.refl, [], rfl, .nil⟩
  | cons edge rest ih =>
    rw [List.mapM_cons] at yields
    obtain ⟨text, middle, first, tail⟩ := Logged.Yields.of_state_bind yields
    obtain ⟨others, last, mapped, done⟩ := Logged.Yields.of_state_bind tail
    cases Logged.Yields.of_pure done
    obtain ⟨buffer, assigned, found, named⟩ := Logged.Yields.of_state_bind first
    cases Logged.Yields.of_pure named
    obtain ⟨extended, present⟩ := BufferPool.buffer_yields found
    obtain ⟨further, names, rfl, refers⟩ := ih mapped
    exact ⟨extended.trans further, buffer.name :: names, rfl,
      .cons ⟨buffer, further.find? present, rfl⟩ refers⟩

/-- The parameters of the run function are the buffers of the graph inputs and outputs. -/
theorem runParameters_spec {graph : Graph} {before after : BufferPool} {text : String}
    (yields : ((Emission.runParameters graph).run before).Yields (text, after)) :
    before.Extends graph after ∧ ∃ names,
      text = ", ".intercalate (names.map fun name => "pico_cnn::naive::Tensor *" ++ name) ∧
        List.Forall₂ (fun edge name => after.Refers name edge.id) (graph.inputs ++ graph.outputs)
          names := by
  obtain ⟨texts, middle, mapped, last⟩ := Logged.Yields.of_state_bind yields
  cases Logged.Yields.of_pure last
  obtain ⟨extended, names, rfl, refers⟩ := mapM_parameter_spec mapped
  exact ⟨extended, names, rfl, refers⟩

/-! ## Lowerings -/

/-- The layers that are selected for a graph serve their nodes. -/
theorem ensures_selectAll (graph : Graph) : Ensures graph (selectAll graph) fun pool layers =>
    ∀ selected ∈ layers, ∃ node ∈ graph.live, selected.1 = node.id ∧
      Building.Serves node pool selected.2 := by
  refine .mapM (fun pool node (selected : Nat × Layer) =>
    selected.1 = node.id ∧ Building.Serves node pool selected.2) ?_ ?_ _
  · exact fun node => .map (Layer.ensures_select.mono fun _ _ serves => ⟨rfl, serves⟩)
  · exact fun _ _ _ _ extended ⟨same, serves⟩ => ⟨same, serves.extend extended⟩

/-- The program of a lowering was rendered from a collection, which was made of its graph and its
tasks. -/
def Lowering.RenderedFrom (compiler : Compiler) (lowering : Lowering)
    (collection : Emission.Collection) : Prop :=
  (∃ before after,
    Assigns (Emission.collect lowering.simplification.graph lowering.tasks) before collection
      after) ∧
  Emission.render compiler.renderer compiler.cancelled collection.drafts =
    .ok lowering.program.fragments

/-- What holds whenever a description has been brought down to a program. -/
structure Lowering.Sound (lowering : Lowering) (collection : Emission.Collection) : Prop where
  settled : lowering.simplification.graph.Settled
  nodes : lowering.tasks.map Task.node = lowering.simplification.graph.live
  sources : ∀ task ∈ lowering.tasks, ∀ tensor ∈ task.node.inputs,
    Schedule.Source lowering.simplification.graph
      (lowering.simplification.graph.inputs.map Edge.id) lowering.simplification.graph.live
      task.node tensor
  fits : lowering.pool.Fits lowering.simplification.graph
  serves : ∀ task ∈ lowering.tasks, Building.Serves task.node lowering.pool task.layer
  collected : ∃ before after,
    Assigns (Emission.collect lowering.simplification.graph lowering.tasks) before collection
        after ∧
      before.Fits lowering.simplification.graph ∧
      after.Extends lowering.simplification.graph lowering.pool
  parameters : ∃ names,
    lowering.program.runParameters =
        ", ".intercalate (names.map fun name => "pico_cnn::naive::Tensor *" ++ name) ∧
      List.Forall₂ (fun edge name => lowering.pool.Refers name edge.id)
        (lowering.simplification.graph.inputs ++ lowering.simplification.graph.outputs) names
  kernels : lowering.program.kernelCount = collection.kernelCount
  biases : lowering.program.biasCount = collection.biasCount

theorem sound_of_lowered (yields : (compiler.lowered spec).run.Yields (.ok lowering)) :
    ∃ collection, lowering.RenderedFrom compiler collection ∧ lowering.Sound collection := by
  obtain ⟨graph, built, simplify, -, lowered⟩ := lowered_spec yields
  have settled := settled_of_simplified built simplify
  obtain ⟨layers, selected, collection, collected, select, schedule, collect, rendered, parameters,
    kernels, biases⟩ := lower_spec lowered
  obtain ⟨selectedExtends, serves⟩ := ensures_selectAll _ _ _ _ select
  obtain ⟨collectedExtends, -, -⟩ := Emission.complete_collect collect
  obtain ⟨finished, names⟩ := runParameters_spec parameters
  have selectedFits := selectedExtends.fits (BufferPool.fits_empty _)
  obtain ⟨nodes, scheduled⟩ := Schedule.ofNodes_spec schedule
  refine ⟨collection, ⟨⟨selected, collected, collect⟩, rendered⟩, settled, nodes,
    fun task member => (scheduled task member).2, ?_, ?_,
    ⟨selected, collected, collect, selectedFits, finished⟩, names, kernels, biases⟩
  · exact finished.fits (collectedExtends.fits selectedFits)
  · intro task member
    exact ((Schedule.forall_of_ofGraph _ settled.placed serves schedule task member).extend
      collectedExtends).extend finished

/-- A compiler with the built-in templates. -/
def plainCompiler : Compiler := ⟨"", 0, .builtin, false⟩

end Compiler

end StaticNet
