import Mathlib.Logic.Relation
import StaticNet.Proofs.Program.Lowering

/-! # What becomes of declared outputs

Folding keeps every node that produces a declared output. Bypassing such a node renames the output
to the tensor that the node passed on, and nothing asks whether that tensor is computed at all. So
an output of a compiled network is an output of one of its tasks, unless bypassing has renamed it
to a tensor without a producer.
-/

namespace StaticNet

open Relation (ReflTransGen TransGen)

namespace GraphSpec

/-- A node of the description may pass the source on as the tensor. -/
def PassesOn (spec : GraphSpec) (tensor source : String) : Prop :=
  ∃ node ∈ spec.nodes, node.op ∈ passingOperators ∧
    node.outputs.getD 0 "" = tensor ∧ node.inputs.getD 0 "" = source

end GraphSpec

namespace Graph

variable {spec : GraphSpec} {propagation : Propagation} {graph before after : Graph}

/-- A tensor without a producer: it is constant, or no node of the description writes it, or the
description passes it on to itself. -/
def Unproduced (spec : GraphSpec) (graph : Graph) (tensor : String) : Prop :=
  graph.isConstant tensor = true ∨ (∀ origin ∈ spec.nodes, tensor ∉ origin.outputs) ∨
    TransGen spec.PassesOn tensor tensor

/-- What has become of a declared output: its node is still there, or it has been renamed to a
tensor that the description passes on to it. -/
inductive Follows (spec : GraphSpec) (graph : Graph) (declared edge : Edge) : Prop
  | stays : edge.id = declared.id → graph.isOutput edge.id = true →
      (edge.id ≠ "" → ∃ node ∈ graph.live, edge.id ∈ node.writes) → Follows spec graph declared edge
  | renamed : edge.id ≠ "" → TransGen spec.PassesOn declared.id edge.id →
      Follows spec graph declared edge

/-- How a graph hangs together with the description that it stems from. -/
structure StemsFrom (spec : GraphSpec) (graph : Graph) : Prop where
  nodes : ∀ node ∈ graph.live, ∃ origin ∈ spec.nodes, node.op = origin.op ∧
    node.outputs = origin.outputs ∧
    ReflTransGen spec.PassesOn (origin.inputs.getD 0 "") (node.input 0)
  sources : ∀ tensor, tensor ≠ "" → graph.Uses tensor →
    graph.Unproduced spec tensor ∨ ∃ node ∈ graph.live, tensor ∈ node.writes
  outputs : List.Forall₂ (graph.Follows spec) spec.outputs graph.outputs

theorem Built.stemsFrom (built : Built spec graph)
    (written : ∀ output ∈ spec.outputs, ∃ origin ∈ spec.nodes, output.id ∈ origin.outputs) :
    graph.StemsFrom spec := by
  have live : ∀ tensor, tensor ≠ "" → (∃ origin ∈ spec.nodes, tensor ∈ origin.outputs) →
      ∃ node ∈ graph.live, tensor ∈ node.writes := by
    rintro tensor present ⟨origin, listed, output⟩
    obtain ⟨node, member, describes⟩ := built.nodes origin listed
    exact ⟨node, member, Node.mem_writes_iff.mpr ⟨describes.outputs ▸ output, present⟩⟩
  refine ⟨?_, ?_, ?_⟩
  · intro node member
    obtain ⟨origin, listed, describes⟩ := built.origins node member
    refine ⟨origin, listed, describes.op, describes.outputs, ?_⟩
    rw [Node.input, describes.inputs]
  · intro tensor present _
    by_cases produced : ∃ origin ∈ spec.nodes, tensor ∈ origin.outputs
    · exact .inr (live tensor present produced)
    · exact .inl (.inr (.inl fun origin listed output => produced ⟨origin, listed, output⟩))
  · rw [built.outputs, List.forall₂_same]
    intro edge declared
    exact .stays rfl (isOutput_iff.mpr ⟨edge, built.outputs ▸ declared, rfl⟩)
      fun present => live edge.id present (written edge declared)

/-! ## Folding -/

theorem Unproduced.of_kept {tensor : String}
    (kept : before.isConstant tensor = true → after.isConstant tensor = true)
    (unproduced : before.Unproduced spec tensor) : after.Unproduced spec tensor :=
  unproduced.imp_left kept

theorem StemsFrom.enrich (enriched : Enriched propagation before after)
    (stems : before.StemsFrom spec) : after.StemsFrom spec := by
  have writers : ∀ tensor, (∃ node ∈ before.live, tensor ∈ node.writes) →
      ∃ node ∈ after.live, tensor ∈ node.writes := by
    rintro tensor ⟨node, member, written⟩
    obtain ⟨next, present, same⟩ := enriched.of_live member
    exact ⟨next, present, Node.congr_strip same Node.writes (fun _ => rfl) ▸ written⟩
  refine ⟨?_, ?_, ?_⟩
  · intro node member
    obtain ⟨old, present, same⟩ := enriched.live member
    rw [Node.congr_strip same Node.op fun _ => rfl, Node.congr_strip same Node.outputs fun _ => rfl,
      Node.congr_strip same (fun node => node.input 0) fun _ => rfl]
    exact stems.nodes old present
  · intro tensor present used
    exact (stems.sources tensor present (enriched.uses used)).imp
      (.of_kept (enriched.kept tensor)) (writers tensor)
  · rw [enriched.outputs]
    refine stems.outputs.imp fun declared edge follows => ?_
    cases follows with
    | stays same output live =>
      refine .stays same ?_ fun present => writers _ (live present)
      rwa [isOutput, enriched.outputs]
    | renamed present chain => exact .renamed present chain

theorem StemsFrom.shrink (shrinks : Shrinks before after) (stems : before.StemsFrom spec) :
    after.StemsFrom spec := by
  refine ⟨?_, ?_, ?_⟩
  · intro node member
    obtain ⟨old, present, alike⟩ := shrinks.live member
    rw [alike.op, alike.outputs, Node.input, alike.inputs]
    exact stems.nodes old present
  · intro tensor present used
    have kept : before.isConstant tensor = true → after.isConstant tensor = true := by
      intro known
      rwa [isConstant, shrinks.constants]
    rcases stems.sources tensor present (shrinks.uses used) with none | ⟨node, member, written⟩
    · exact .inl (none.of_kept kept)
    · rcases shrinks.writers node member tensor written used with known | remains
      · exact .inl (.inl (kept known))
      · exact .inr remains
  · rw [shrinks.outputs]
    refine stems.outputs.imp fun declared edge follows => ?_
    cases follows with
    | stays same output live =>
      refine .stays same (by rwa [isOutput, shrinks.outputs]) fun present => ?_
      obtain ⟨node, member, written⟩ := live present
      have yields : before.yieldsOutput node = true :=
        List.any_eq_true.mpr ⟨edge.id, (Node.mem_writes_iff.mp written).1, output⟩
      obtain ⟨next, remains, alike⟩ := shrinks.yields node member yields
      exact ⟨next, remains, alike.writes ▸ written⟩
    | renamed present chain => exact .renamed present chain

/-! ## Bypassing -/

section
variable {node : Node} (bypasses : Bypasses propagation node before after)
include bypasses

/-- The description passes the input of the bypassed node on to its output. -/
private theorem StemsFrom.passesOn (stems : before.StemsFrom spec) :
    TransGen spec.PassesOn (node.output 0) (node.input 0) := by
  obtain ⟨origin, listed, op, outputs, chain⟩ := stems.nodes node bypasses.member
  refine .head' ⟨origin, listed, ?_, ?_, rfl⟩ chain
  · exact op ▸ mem_passingOperators bypasses.passes
  · rw [← outputs, Node.output]

/-- What the bypassed node passed on has its source unless the node passed it on to itself. -/
private theorem StemsFrom.source_bypass (stems : before.StemsFrom spec) {tensor : String}
    (present : tensor ≠ "") (used : after.Uses tensor) :
    after.Unproduced spec tensor ∨ ∃ node ∈ after.live, tensor ∈ node.writes := by
  have kept : ∀ tensor, before.isConstant tensor = true → after.isConstant tensor = true := by
    intro tensor known
    rwa [isConstant, bypasses.constants]
  obtain ⟨earlier, earlierUsed, rfl⟩ := bypasses.uses_before used
  split at present
  · next here =>
    rw [if_pos here]
    have inputUsed : before.Uses (node.input 0) :=
      .inr ⟨node, bypasses.member, Node.reads_of_first bypasses.input⟩
    rcases stems.sources _ present inputUsed with none | written
    · exact .inl (none.of_kept (kept _))
    · by_cases loop : node.input 0 = node.output 0
      · exact .inl (.inr (.inr (loop ▸ stems.passesOn bypasses)))
      · exact .inr (bypasses.writer_kept inputUsed loop written)
  · next elsewhere =>
    rw [if_neg elsewhere]
    exact (stems.sources earlier present earlierUsed).imp (.of_kept (kept earlier))
      (bypasses.writer_kept earlierUsed elsewhere)

private theorem Follows.bypass (passes : TransGen spec.PassesOn (node.output 0) (node.input 0))
    {declared edge : Edge} (follows : before.Follows spec declared edge) :
    after.Follows spec declared
      (if edge.id = node.output 0 then { edge with id := node.input 0 } else edge) := by
  split
  · next here =>
    refine .renamed bypasses.input ?_
    cases follows with
    | stays same _ _ => exact same ▸ here ▸ passes
    | renamed _ chain => exact chain.trans (here ▸ passes)
  · next elsewhere =>
    cases follows with
    | stays same output live =>
      refine .stays same ?_ fun present =>
        bypasses.writer_kept (.inl output) elsewhere (live present)
      obtain ⟨old, listed, sameId⟩ := isOutput_iff.mp output
      refine isOutput_iff.mpr ⟨old, ?_, sameId⟩
      rw [bypasses.outputs]
      exact List.mem_map.mpr ⟨old, listed, if_neg (sameId ▸ elsewhere)⟩
    | renamed present chain => exact .renamed present chain

theorem StemsFrom.bypass (stems : before.StemsFrom spec) : after.StemsFrom spec := by
  have passes := stems.passesOn bypasses
  refine ⟨?_, fun _ => stems.source_bypass bypasses, ?_⟩
  · intro next member
    obtain ⟨old, present, -, alike⟩ := bypasses.nodes next member
    obtain ⟨origin, listed, op, outputs, chain⟩ := stems.nodes old present
    refine ⟨origin, listed, (alike.op.trans op_redirect).trans op, ?_, ?_⟩
    · rw [alike.outputs, outputs_redirect]
      exact outputs
    · rw [Node.input, alike.inputs, ← Node.input, input_redirect bypasses.output 0]
      split
      · next here => exact (here ▸ chain).trans passes.to_reflTransGen
      · exact chain
  · rw [bypasses.outputs, List.forall₂_map_right_iff]
    exact stems.outputs.imp fun _ _ => Follows.bypass bypasses passes

end

/-- Simplification leaves a graph that stems from the description. -/
theorem StemsFrom.simplify (built : build spec = .ok graph)
    (written : ∀ output ∈ spec.outputs, ∃ origin ∈ spec.nodes, output.id ∈ origin.outputs)
    {outcome : Simplified × Option SimplifyError}
    (yields : (graph.simplify propagation).Yields outcome) : outcome.1.graph.StemsFrom spec := by
  have facts := built_of_build built
  obtain ⟨folding, fold, rest⟩ := Logged.Yields.of_bind yields
  obtain ⟨bypassing, bypassed, last⟩ := Logged.Yields.of_bind rest
  obtain ⟨coherent, -, folded⟩ := foldConstants_invariant (fun _ _ => StemsFrom.enrich)
    (fun _ _ => StemsFrom.shrink) facts.coherent facts.inStep (facts.stemsFrom written) fold
  obtain ⟨-, -, final⟩ := bypassNops_invariant (fun _ _ _ => StemsFrom.bypass) coherent.placed
    coherent.readers folded bypassed
  rw [Logged.Yields.of_pure last]
  exact final

theorem StemsFrom.withShapes (stems : graph.StemsFrom spec) (shapes : Dict (Option Shape)) :
    { graph with shapes }.StemsFrom spec :=
  ⟨stems.nodes, stems.sources,
    stems.outputs.imp fun _ _ follows => match follows with
      | .stays same output live => .stays same output live
      | .renamed present chain => .renamed present chain⟩

end Graph

namespace Compiler

/-- When every declared output is an output of a node, the network has one input and one output,
and its parameters have one name exactly when these are the same tensor. The output is an output of
a task, unless it is nameless or has been renamed along nodes that pass a tensor on to one without
a producer. -/
theorem output_computed_or_renamed {compiler : Compiler} {spec : GraphSpec} {journal : Journal}
    {compilation : Compilation}
    (written : ∀ output ∈ spec.outputs, ∃ origin ∈ spec.nodes, output.id ∈ origin.outputs)
    (compiled : ((compiler.compile spec).run.run journal).1 = .ok compilation) :
    ∃ declared input output first last, spec.outputs = [declared] ∧
      compilation.graph.inputs = [input] ∧ compilation.graph.outputs = [output] ∧
      compilation.program.runParameters =
        "pico_cnn::naive::Tensor *" ++ first ++ ", " ++ ("pico_cnn::naive::Tensor *" ++ last) ∧
      compilation.pool.Refers first input.id ∧ compilation.pool.Refers last output.id ∧
      (first = last ↔ output.id = input.id) ∧
      ((∃ task ∈ compilation.tasks, output.id ∈ task.node.outputs) ∨ declared.id = "" ∨
        (TransGen spec.PassesOn declared.id output.id ∧
          compilation.graph.Unproduced spec output.id)) := by
  obtain ⟨lowering, lowered, graph, pool, tasks, program⟩ := compile_spec (.of_run compiled)
  obtain ⟨start, built, simplify, interface, -⟩ := lowered_spec lowered
  obtain ⟨propagation, reduced, shapes, simplified, same⟩ := simplified_spec simplify
  obtain ⟨collection, -, sound⟩ := sound_of_lowered lowered
  obtain ⟨input, output, inputs, outputs⟩ := interface_spec interface
  obtain ⟨names, text, parameters⟩ := sound.parameters
  have stems : lowering.simplification.graph.StemsFrom spec :=
    same ▸ (Graph.StemsFrom.simplify built written simplified).withShapes shapes
  have tracked := stems.outputs
  rw [outputs] at tracked
  obtain ⟨declared, _, follows, none, only⟩ := List.forall₂_cons_right_iff.mp tracked
  obtain rfl := List.forall₂_nil_right_iff.mp none
  rw [inputs, outputs] at parameters
  obtain ⟨first, _, firstRefers, others, rfl⟩ := List.forall₂_cons_left_iff.mp parameters
  obtain ⟨last, _, lastRefers, rest, rfl⟩ := List.forall₂_cons_left_iff.mp others
  obtain rfl := List.forall₂_nil_left_iff.mp rest
  have computed : ∀ tensor, (∃ node ∈ lowering.simplification.graph.live, tensor ∈ node.writes) →
      ∃ task ∈ lowering.tasks, tensor ∈ task.node.outputs := by
    rintro tensor ⟨node, live, written⟩
    rw [← sound.nodes] at live
    obtain ⟨task, scheduled, rfl⟩ := List.mem_map.mp live
    exact ⟨task, scheduled, (Node.mem_writes_iff.mp written).1⟩
  rw [graph, pool, tasks, program]
  refine ⟨declared, input, output, first, last, only, inputs, outputs, text, firstRefers,
    lastRefers, ⟨?_, fun sameId => firstRefers.name_eq (sameId ▸ lastRefers)⟩, ?_⟩
  · rintro rfl
    exact sound.fits.tensor_eq lastRefers firstRefers
  · cases follows with
    | stays sameId isOutput live =>
      by_cases absent : output.id = ""
      · exact .inr (.inl (sameId ▸ absent))
      · exact .inl (computed _ (live absent))
    | renamed present chain =>
      have declaredHere : lowering.simplification.graph.isOutput output.id = true :=
        Graph.isOutput_iff.mpr ⟨output, outputs ▸ List.mem_cons_self .., rfl⟩
      rcases stems.sources output.id present (.inl declaredHere) with none | written
      · exact .inr (.inr ⟨chain, none⟩)
      · exact .inl (computed _ written)

/-! ## An output that no task computes -/

/-- A node that keeps the shape of the input and passes it on as the output. -/
def echo : GraphSpec where
  name := "echo"
  nodes := [⟨"keep", "Reshape", ["x", "s"], ["y"], .empty⟩]
  inputs := [⟨"x", 1, some [1, 2]⟩]
  outputs := [⟨"y", 1, some [1, 2]⟩]
  initializers := Dict.ofList [("s", Tensor.vector [1, 2])]
  values := []

private theorem evaluated_echo :
    ((plainCompiler.compile echo).run.run []).1.toOption.any (fun compilation =>
      compilation.tasks = [] ∧ compilation.graph.inputs = [⟨"x", 1, some [1, 2]⟩] ∧
        compilation.graph.outputs = [⟨"x", 1, some [1, 2]⟩]) = true := by
  decide +kernel

private theorem isSome_echo :
    ((plainCompiler.compile echo).run.run []).1.toOption.isSome = true :=
  Option.isSome_of_any evaluated_echo

/-- What becomes of the node. -/
def echoCompilation : Compilation :=
  ((plainCompiler.compile echo).run.run []).1.toOption.get isSome_echo

/-- The network has no task, and both its parameters are the buffer of the input. -/
theorem not_computed_echo :
    (∀ output ∈ echo.outputs, ∃ origin ∈ echo.nodes, output.id ∈ origin.outputs) ∧
      echoCompilation.tasks = [] ∧
      ∃ name, echoCompilation.program.runParameters =
          "pico_cnn::naive::Tensor *" ++ name ++ ", " ++ ("pico_cnn::naive::Tensor *" ++ name) ∧
        echoCompilation.pool.Refers name "x" ∧ TransGen echo.PassesOn "y" "x" := by
  have written : ∀ output ∈ echo.outputs, ∃ origin ∈ echo.nodes, output.id ∈ origin.outputs := by
    decide +kernel
  have compiled : ((plainCompiler.compile echo).run.run []).1 = .ok echoCompilation :=
    Outcome.eq_ok_get isSome_echo
  obtain ⟨declared, input, output, first, last, only, inputs, outputs, text, refers, -, same,
    fate⟩ := output_computed_or_renamed written compiled
  have evaluated := Outcome.of_any evaluated_echo compiled
  obtain ⟨idle, oneInput, oneOutput⟩ := of_decide_eq_true evaluated
  cases inputs.symm.trans oneInput
  cases outputs.symm.trans oneOutput
  cases only
  obtain rfl : first = last := same.mpr rfl
  refine ⟨written, idle, first, text, refers, ?_⟩
  rcases fate with ⟨task, scheduled, -⟩ | nameless | ⟨chain, -⟩
  · rw [idle] at scheduled
    cases scheduled
  · exact absurd nameless (by decide)
  · exact chain

end Compiler

end StaticNet
