import StaticNet.Proofs.Propagation.Fallback
import StaticNet.Simplification.ShapeMerge

/-! # What merging inferred shapes does

Merging writes the inferred shape of every known tensor over its entry in the shape table and leaves
the other entries alone. It reports what it contradicts, and a second merge finds nothing new, for
the table then says what was inferred; only the declared shapes are contradicted again.

The table is also read by propagation, at nodes without a transfer function. There the merge writes
what has been read, so that a run over the merged graph goes the same way.
-/

namespace StaticNet

namespace Propagation

variable {propagation : Propagation}

theorem mem_knownShapes_iff {tensor : String} {shape : Option Shape} :
    (tensor, shape) ∈ propagation.knownShapes ↔
      (propagation.state tensor).isKnown = true ∧ (propagation.state tensor).shape? = shape := by
  rw [knownShapes, List.mem_filterMap]
  constructor
  · rintro ⟨other, -, listed⟩
    simp only [Option.ite_none_right_eq_some, Option.some.injEq] at listed
    obtain ⟨known, same⟩ := listed
    obtain ⟨rfl, rfl⟩ := Prod.mk.inj same
    exact ⟨known, rfl⟩
  · rintro ⟨known, rfl⟩
    refine ⟨tensor, Dict.mem_sortedKeys_iff.mpr ?_, if_pos known⟩
    cases found : propagation.states.get? tensor with
    | none =>
      rw [state, found] at known
      cases known
    | some knowledge => exact ⟨knowledge, rfl⟩

theorem mem_map_knownShapes_iff {tensor : String} :
    tensor ∈ propagation.knownShapes.map Prod.fst ↔
      (propagation.state tensor).isKnown = true := by
  constructor
  · intro listed
    obtain ⟨⟨other, shape⟩, member, rfl⟩ := List.mem_map.mp listed
    exact (mem_knownShapes_iff.mp member).1
  · intro known
    exact List.mem_map.mpr ⟨(tensor, _), mem_knownShapes_iff.mpr ⟨known, rfl⟩, rfl⟩

/-- Inferred shapes come in name order, one for each tensor. -/
theorem pairwise_knownShapes (propagation : Propagation) :
    (propagation.knownShapes.map Prod.fst).Pairwise (· < ·) := by
  rw [knownShapes, List.pairwise_map]
  refine List.Pairwise.filterMap _ ?_ (Dict.pairwise_sortedKeys _)
  intro first second before one oneSame other otherSame
  simp only [Option.ite_none_right_eq_some, Option.some.injEq] at oneSame otherSame
  rwa [← oneSame.2, ← otherSame.2]

theorem nodup_knownShapes (propagation : Propagation) :
    (propagation.knownShapes.map Prod.fst).Nodup := by
  refine List.Pairwise.imp (fun {first second} before => ?_) (pairwise_knownShapes propagation)
  rintro rfl
  exact String.lt_irrefl first before

end Propagation

namespace Graph

variable {graph : Graph}

/-! ## One entry after the other -/

/-- The conflict that writing an inferred shape gives rise to. -/
def conflict? (graph : Graph) (inferred : String × Option Shape) : Option Conflict :=
  (graph.contradicted? inferred.1 inferred.2).map fun contradicted =>
    ⟨inferred.1, contradicted.1, inferred.2⟩

/-- A graph with inferred shapes written into its shape table. -/
def recordShapes (graph : Graph) (shapes : List (String × Option Shape)) : Graph :=
  shapes.foldl (fun graph inferred => graph.recordShape inferred.1 inferred.2) graph

theorem recordedShape?_recordShape (tensor other : String) (shape : Option Shape) :
    (graph.recordShape tensor shape).recordedShape? other =
      if other = tensor then some shape else graph.recordedShape? other :=
  Dict.get?_insert ..

theorem run_adoptShape (state : Merging) (inferred : String × Option Shape) (log : Journal) :
    ((adoptShape state inferred).run log).1 =
      ⟨state.graph.recordShape inferred.1 inferred.2,
        state.conflicts ++ (state.graph.conflict? inferred).toList⟩ := by
  rw [adoptShape, conflict?]
  dsimp only
  cases state.graph.contradicted? inferred.1 inferred.2 with
  | none =>
    rw [Option.map_none, Option.toList_none, List.append_nil]
    rfl
  | some contradicted => rfl

/-- Writing one entry leaves open what the entries of other tensors contradict. -/
theorem conflict?_recordShape (tensor : String) (shape : Option Shape)
    {inferred : String × Option Shape} (different : inferred.1 ≠ tensor) :
    (graph.recordShape tensor shape).conflict? inferred = graph.conflict? inferred := by
  have kept : (graph.recordShape tensor shape).recordedShape? inferred.1 =
      graph.recordedShape? inferred.1 := by
    rw [recordedShape?_recordShape, if_neg different]
  have stated : (graph.recordShape tensor shape).statedShape? inferred.1 =
      graph.statedShape? inferred.1 := rfl
  rw [conflict?, conflict?, contradicted?, contradicted?, kept, stated]

/-- Each shape is compared with what the graph says before the merge, for no tensor comes twice. -/
theorem run_foldlM_adoptShape {shapes : List (String × Option Shape)}
    (distinct : (shapes.map Prod.fst).Nodup) (conflicts : List Conflict) (log : Journal) :
    ((shapes.foldlM adoptShape ⟨graph, conflicts⟩).run log).1 =
      ⟨graph.recordShapes shapes, conflicts ++ shapes.filterMap graph.conflict?⟩ := by
  induction shapes generalizing graph conflicts log with
  | nil =>
    rw [List.filterMap_nil, List.append_nil]
    rfl
  | cons first rest ih =>
    rw [List.map_cons, List.nodup_cons] at distinct
    have later : rest.filterMap (graph.recordShape first.1 first.2).conflict? =
        rest.filterMap graph.conflict? := by
      refine List.filterMap_congr fun inferred listed => conflict?_recordShape _ _ ?_
      intro same
      exact distinct.1 (same ▸ List.mem_map_of_mem listed)
    have split : (first :: rest).filterMap graph.conflict? =
        (graph.conflict? first).toList ++ rest.filterMap graph.conflict? := by
      rw [List.filterMap_cons]
      cases graph.conflict? first <;> rfl
    rw [List.foldlM_cons]
    change ((rest.foldlM adoptShape ((adoptShape ⟨graph, conflicts⟩ first).run log).1).run _).1 = _
    rw [run_adoptShape, ih distinct.2, later, split, List.append_assoc]
    rfl

theorem recordedShape?_recordShapes_of_notMem {shapes : List (String × Option Shape)}
    {tensor : String} (unlisted : tensor ∉ shapes.map Prod.fst) :
    (graph.recordShapes shapes).recordedShape? tensor = graph.recordedShape? tensor := by
  induction shapes generalizing graph with
  | nil => rfl
  | cons first rest ih =>
    rw [List.map_cons, List.mem_cons, not_or] at unlisted
    refine (ih unlisted.2).trans ?_
    rw [recordedShape?_recordShape, if_neg unlisted.1]

theorem recordedShape?_recordShapes {shapes : List (String × Option Shape)}
    (distinct : (shapes.map Prod.fst).Nodup) {tensor : String} {shape : Option Shape}
    (listed : (tensor, shape) ∈ shapes) :
    (graph.recordShapes shapes).recordedShape? tensor = some shape := by
  induction shapes generalizing graph with
  | nil => cases listed
  | cons first rest ih =>
    rw [List.map_cons, List.nodup_cons] at distinct
    rcases List.mem_cons.mp listed with rfl | later
    · refine (recordedShape?_recordShapes_of_notMem distinct.1).trans ?_
      rw [recordedShape?_recordShape, if_pos rfl]
    · exact ih distinct.2 later

/-- Writing what the table says already changes nothing. -/
theorem recordShapes_of_recorded {shapes : List (String × Option Shape)}
    (recorded : ∀ inferred ∈ shapes, graph.recordedShape? inferred.1 = some inferred.2) :
    graph.recordShapes shapes = graph := by
  induction shapes with
  | nil => rfl
  | cons first rest ih =>
    have same : graph.recordShape first.1 first.2 = graph := by
      rw [recordShape, Dict.insert_of_get? (recorded first List.mem_cons_self)]
    rw [recordShapes, List.foldl_cons, same]
    exact ih fun inferred later => recorded inferred (List.mem_cons_of_mem first later)

theorem recordShapes_eq (shapes : List (String × Option Shape)) :
    graph.recordShapes shapes = { graph with shapes := (graph.recordShapes shapes).shapes } := by
  induction shapes generalizing graph with
  | nil => rfl
  | cons first rest ih => exact ih

/-! ## The merged graph -/

/-- A shape contradicts the declared one, or the entry in the table where none is declared. A shape
that is not stated counts as that of a scalar. -/
def Contradicts (graph : Graph) (tensor : String) (declared inferred : Option Shape) : Prop :=
  (∃ stated, graph.statedShape? tensor = some stated ∧ declared = some stated ∧
      stated ≠ inferred.getD []) ∨
    (graph.statedShape? tensor = none ∧ graph.recordedShape? tensor = some declared ∧
      declared.getD [] ≠ inferred.getD [])

theorem contradicts_iff {tensor : String} {declared inferred : Option Shape} :
    graph.Contradicts tensor declared inferred ↔
      ∃ message, graph.contradicted? tensor inferred = some (declared, message) := by
  rw [Contradicts, contradicted?]
  cases graph.statedShape? tensor with
  | some stated =>
    dsimp only
    constructor
    · rintro (⟨other, same, rfl, differs⟩ | ⟨unstated, -, -⟩)
      · cases same
        exact ⟨_, if_neg differs⟩
      · cases unstated
    · rintro ⟨message, contradicted⟩
      obtain ⟨differs, same⟩ := Option.ite_none_left_eq_some.mp contradicted
      cases same
      exact .inl ⟨stated, rfl, rfl, differs⟩
  | none =>
    cases graph.recordedShape? tensor with
    | none => simp
    | some previous =>
      dsimp only
      constructor
      · rintro (⟨other, same, -, -⟩ | ⟨-, recorded, differs⟩)
        · cases same
        · cases recorded
          exact ⟨_, if_neg differs⟩
      · rintro ⟨message, contradicted⟩
        obtain ⟨differs, same⟩ := Option.ite_none_left_eq_some.mp contradicted
        cases same
        exact .inr ⟨rfl, rfl, differs⟩

theorem conflict?_eq_some_iff {inferred : String × Option Shape} {conflict : Conflict} :
    graph.conflict? inferred = some conflict ↔
      inferred = (conflict.tensor, conflict.inferred) ∧
        graph.Contradicts conflict.tensor conflict.declared conflict.inferred := by
  rw [conflict?, Option.map_eq_some_iff, contradicts_iff]
  constructor
  · rintro ⟨⟨declared, message⟩, contradicted, rfl⟩
    exact ⟨rfl, message, contradicted⟩
  · rintro ⟨rfl, message, contradicted⟩
    exact ⟨(conflict.declared, message), contradicted, rfl⟩

/-- A merge that finds its shapes in the table contradicts declared shapes only. -/
theorem conflict?_of_recorded {merged : Graph} {inferred : String × Option Shape}
    (stated : merged.statedShape? inferred.1 = graph.statedShape? inferred.1)
    (recorded : merged.recordedShape? inferred.1 = some inferred.2) :
    merged.conflict? inferred = (graph.conflict? inferred).filter fun conflict =>
      (graph.statedShape? conflict.tensor).isSome := by
  have tensor : ∀ conflict, graph.conflict? inferred = some conflict →
      conflict.tensor = inferred.1 := by
    intro conflict found
    rw [(conflict?_eq_some_iff.mp found).1]
  cases declared : graph.statedShape? inferred.1 with
  | some shape =>
    have same : merged.conflict? inferred = graph.conflict? inferred := by
      rw [conflict?, conflict?, contradicted?, contradicted?, stated, declared]
    rw [same]
    cases found : graph.conflict? inferred with
    | none => rfl
    | some conflict =>
      rw [Option.filter_some, tensor conflict found, declared]
      rfl
  | none =>
    have nothing : merged.conflict? inferred = none := by
      rw [conflict?, contradicted?, stated, declared, recorded]
      simp
    rw [nothing]
    cases found : graph.conflict? inferred with
    | none => rfl
    | some conflict =>
      rw [Option.filter_some, tensor conflict found, declared]
      rfl

/-- A merge writes the inferred shapes of the known tensors into the shape table and changes nothing
else. It reports in name order the known tensors whose inferred shape contradicts the graph. -/
structure MergesInto (graph : Graph) (propagation : Propagation) (merged : Merging) : Prop where
  table : ∀ tensor, merged.graph.recordedShape? tensor =
    if (propagation.state tensor).isKnown then some (propagation.state tensor).shape?
    else graph.recordedShape? tensor
  rest : merged.graph = { graph with shapes := merged.graph.shapes }
  sorted : (merged.conflicts.map Conflict.tensor).Pairwise (· < ·)
  conflicts : ∀ conflict, conflict ∈ merged.conflicts ↔
    (propagation.state conflict.tensor).isKnown = true ∧
      conflict.inferred = (propagation.state conflict.tensor).shape? ∧
        graph.Contradicts conflict.tensor conflict.declared conflict.inferred

theorem mergesInto_recordShapes (graph : Graph) (propagation : Propagation) :
    graph.MergesInto propagation ⟨graph.recordShapes propagation.knownShapes,
      propagation.knownShapes.filterMap graph.conflict?⟩ where
  table := by
    intro tensor
    by_cases known : (propagation.state tensor).isKnown = true
    · rw [if_pos known]
      exact recordedShape?_recordShapes propagation.nodup_knownShapes
        (Propagation.mem_knownShapes_iff.mpr ⟨known, rfl⟩)
    · rw [if_neg known]
      exact recordedShape?_recordShapes_of_notMem (mt Propagation.mem_map_knownShapes_iff.mp known)
  rest := recordShapes_eq _
  sorted := by
    have ordered := propagation.pairwise_knownShapes
    rw [List.pairwise_map] at ordered ⊢
    refine ordered.filterMap _ fun first second before one oneFound other otherFound => ?_
    rw [(conflict?_eq_some_iff.mp oneFound).1, (conflict?_eq_some_iff.mp otherFound).1] at before
    exact before
  conflicts := by
    intro conflict
    rw [List.mem_filterMap]
    constructor
    · rintro ⟨inferred, listed, found⟩
      obtain ⟨rfl, contradicts⟩ := conflict?_eq_some_iff.mp found
      obtain ⟨known, same⟩ := Propagation.mem_knownShapes_iff.mp listed
      exact ⟨known, same.symm, contradicts⟩
    · rintro ⟨known, same, contradicts⟩
      exact ⟨(conflict.tensor, conflict.inferred),
        Propagation.mem_knownShapes_iff.mpr ⟨known, same.symm⟩,
        conflict?_eq_some_iff.mpr ⟨rfl, contradicts⟩⟩

theorem run_adoptShapes (graph : Graph) (propagation : Propagation) (log : Journal) :
    ((graph.adoptShapes propagation).run log).1 =
      ⟨graph.recordShapes propagation.knownShapes,
        propagation.knownShapes.filterMap graph.conflict?⟩ :=
  run_foldlM_adoptShape propagation.nodup_knownShapes [] log

/-- A second merge finds its shapes in the table. -/
theorem run_adoptShapes_again (graph : Graph) (propagation : Propagation) (log : Journal) :
    (((graph.recordShapes propagation.knownShapes).adoptShapes propagation).run log).1 =
      ⟨graph.recordShapes propagation.knownShapes,
        (propagation.knownShapes.filterMap graph.conflict?).filter fun conflict =>
          (graph.statedShape? conflict.tensor).isSome⟩ := by
  have recorded : ∀ inferred ∈ propagation.knownShapes,
      (graph.recordShapes propagation.knownShapes).recordedShape? inferred.1 = some inferred.2 :=
    fun _ listed => recordedShape?_recordShapes propagation.nodup_knownShapes listed
  have stated : ∀ tensor, (graph.recordShapes propagation.knownShapes).statedShape? tensor =
      graph.statedShape? tensor := by
    intro tensor
    rw [recordShapes_eq]
    rfl
  rw [run_adoptShapes, recordShapes_of_recorded recorded, List.filter_filterMap]
  congr 1
  exact List.filterMap_congr fun inferred listed =>
    conflict?_of_recorded (stated inferred.1) (recorded inferred listed)

/-- Merging what propagation found out writes the shape of every known tensor into the table and
reports every contradiction. A second merge changes nothing and contradicts declared shapes only.
Propagation through the merged graph goes as before. -/
theorem adoptShapes_stable {spec : GraphSpec} {start : Graph} (built : build spec = .ok start)
    (edits : List Edit) {propagator : Propagator} {journal : Journal} {propagation : Propagation}
    (run : ((propagator.run (start.edited edits)).run.run journal).1 = .ok propagation) :
    ∃ merged : Merging, (start.edited edits).MergesInto propagation merged ∧
      (∀ log, (((start.edited edits).adoptShapes propagation).run log).1 = merged) ∧
      (∀ log, ((merged.graph.adoptShapes propagation).run log).1 =
        ⟨merged.graph, merged.conflicts.filter fun conflict =>
          ((start.edited edits).statedShape? conflict.tensor).isSome⟩) ∧
      propagator.run merged.graph = propagator.run (start.edited edits) ∧
      ((propagator.run merged.graph).run.run journal).1 = .ok propagation := by
  have traced := (traced_of_build built).edited edits
  generalize start.edited edits = graph at traced run ⊢
  have merges := mergesInto_recordShapes graph propagation
  have fallback : propagator.SameFallback graph
      (graph.recordShapes propagation.knownShapes).shapes := by
    intro node member unhandled tensor written
    have entry := merges.table tensor
    rw [recordedShape?] at entry
    rw [entry]
    by_cases known : (propagation.state tensor).isKnown = true
    · rw [if_pos known, Option.join_some]
      exact Propagator.shape?_of_unhandled traced (.of_run run) member unhandled written known
    · rw [if_neg known]
  have same : propagator.run (graph.recordShapes propagation.knownShapes) =
      propagator.run graph := by
    rw [recordShapes_eq]
    exact Propagator.run_of_sameFallback fallback
  exact ⟨_, merges, run_adoptShapes graph propagation, run_adoptShapes_again graph propagation,
    same, by rw [same, run]⟩

/-- A node without a transfer function between known tensors: an entry of the shape table and the
shape of a declared output are wrong. -/
def widths : GraphSpec where
  name := "widths"
  nodes :=
    [ ⟨"odd", "Erf", ["x"], ["a", ""], .empty⟩,
      ⟨"same", "Relu", ["a"], ["b"], .empty⟩,
      ⟨"last", "Relu", ["b"], ["y"], .empty⟩ ]
  inputs := [⟨"x", 1, some [2]⟩]
  outputs := [⟨"y", 1, some [9]⟩]
  initializers := .empty
  values := [⟨"a", 1, some [3]⟩, ⟨"unread", 1, some [4]⟩]

/-- The graph of the widths. -/
def widthsGraph : Graph := (build widths).toOption.get rfl

private theorem isSome_widths :
    ((Propagator.builtin.run (widthsGraph.edited [.recordShape "b" (some [5])])).run.run
      []).1.toOption.isSome = true := by
  decide +kernel

/-- What propagation finds out about it. -/
def widthsKnowledge : Propagation :=
  ((Propagator.builtin.run (widthsGraph.edited [.recordShape "b" (some [5])])).run.run
    []).1.toOption.get isSome_widths

/-- The wrong entry is replaced, the declared shape is reported twice. -/
theorem adoptShapes_stable_widths :
    ∃ merged : Merging,
      (widthsGraph.edited [.recordShape "b" (some [5])]).MergesInto widthsKnowledge merged ∧
      merged.conflicts = [⟨"b", some [5], some [3]⟩, ⟨"y", some [9], some [3]⟩] ∧
      (∀ log, ((merged.graph.adoptShapes widthsKnowledge).run log).1 =
        ⟨merged.graph, [⟨"y", some [9], some [3]⟩]⟩) ∧
      ((Propagator.builtin.run merged.graph).run.run []).1 = .ok widthsKnowledge := by
  have built : build widths = .ok widthsGraph := rfl
  have run : ((Propagator.builtin.run (widthsGraph.edited [.recordShape "b" (some [5])])).run.run
      []).1 = .ok widthsKnowledge := Outcome.eq_ok_get isSome_widths
  obtain ⟨merged, merges, first, second, -, again⟩ := adoptShapes_stable built _ run
  have conflicts : merged.conflicts = [⟨"b", some [5], some [3]⟩, ⟨"y", some [9], some [3]⟩] := by
    rw [← first []]
    decide +kernel
  have declared : (merged.conflicts.filter fun conflict =>
      ((widthsGraph.edited [.recordShape "b" (some [5])]).statedShape? conflict.tensor).isSome) =
        [⟨"y", some [9], some [3]⟩] := by
    rw [conflicts]
    decide +kernel
  exact ⟨merged, merges, conflicts, fun log => (second log).trans (by rw [declared]), again⟩

end Graph

end StaticNet
