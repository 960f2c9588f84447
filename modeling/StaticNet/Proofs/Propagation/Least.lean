import StaticNet.Proofs.Propagation.Stability
import StaticNet.Proofs.Propagation.Steadiness

/-! # Propagation finds out the least

Knowledge is closed when a visit finds out nothing else. With regular transfer functions, and when
nothing writes an input or a constant, a run only ever adds to what is known. It ends with knowledge
that is closed and includes what is known from the start, and with no more than any other such
knowledge.
-/

namespace StaticNet

namespace Propagator

variable {propagator : Propagator} {graph : Graph}

/-! ## Visits to a graph about which something is known -/

/-- What is recorded about a tensor. -/
def recorded (states : Dict Knowledge) (tensor : String) : Knowledge :=
  (states.get? tensor).getD .unknown

/-- What a transfer function is told about an input of its node. -/
def told (graph : Graph) (folds : Bool) (known : String → Knowledge) (tensor : String) :
    Knowledge :=
  if tensor = "" then .unknown
  else if !folds && (graph.isInput tensor || graph.isConstant tensor) then
    (known tensor).forgetValue
  else known tensor

/-- What a visit finds out about the outputs of a node. -/
def evaluateWith (propagator : Propagator) (graph : Graph) (known : String → Knowledge)
    (node : Node) : TransferResult :=
  match propagator.transfers.get? node.op with
  | none => .ok (tableStates graph node)
  | some transfer => transfer.apply node (node.inputs.map (told graph transfer.folds known))

theorem evaluate_eq (states : Dict Knowledge) (node : Node) :
    propagator.evaluate graph states node =
      propagator.evaluateWith graph (recorded states) node := rfl

/-- All transfer functions are regular. -/
def Regular (propagator : Propagator) : Prop :=
  ∀ op transfer, propagator.transfers.get? op = some transfer → transfer.Regular

theorem told_atMost {fewer more : String → Knowledge} {folds : Bool} {tensor : String}
    (atMost : tensor ≠ "" → (fewer tensor).AtMost (more tensor)) :
    (told graph folds fewer tensor).AtMost (told graph folds more tensor) := by
  rw [told, told]
  split
  · exact .refl _
  · next present =>
    split
    · exact (atMost present).forgetValue
    · exact atMost present

/-- What a visit finds out, it still finds out when more is known. -/
theorem evaluateWith_mono (regular : propagator.Regular) {fewer more : String → Knowledge}
    {node : Node} (atMost : ∀ tensor ∈ node.reads, (fewer tensor).AtMost (more tensor))
    {results : List Knowledge} (done : propagator.evaluateWith graph fewer node = .ok results) :
    propagator.evaluateWith graph more node = .ok results := by
  rw [evaluateWith] at done ⊢
  split at done
  · exact done
  · next transfer found =>
    have inputs : List.Forall₂ Knowledge.AtMost
        (node.inputs.map (told graph transfer.folds fewer))
        (node.inputs.map (told graph transfer.folds more)) := by
      rw [List.forall₂_map_left_iff, List.forall₂_map_right_iff, List.forall₂_same]
      exact fun tensor listed => told_atMost fun present =>
        atMost tensor (Node.mem_reads_iff.mpr ⟨listed, present⟩)
    rcases (regular _ transfer found).steady node _ _ inputs with same | ⟨cause, deferred, -⟩
    · exact same ▸ done
    · rw [deferred] at done
      cases done

private theorem forgetValue_told (folds : Bool) (known : String → Knowledge) (tensor : String) :
    (told graph folds known tensor).forgetValue =
      if tensor = "" then .unknown else (known tensor).forgetValue := by
  rw [told]
  split
  · rfl
  · split
    · rw [Knowledge.forgetValue_forgetValue]
    · rfl

/-- A visit does not hang on how tensors are called, nor on which of them are inputs and constants.
-/
theorem evaluateWith_rename (regular : propagator.Regular) {before after : Graph}
    (shapes : after.shapes = before.shapes) {old next : Node} (task : next.task = old.task)
    {rename : String → String} (inputs : next.inputs = old.inputs.map rename)
    (absent : ∀ tensor, rename tensor = "" ↔ tensor = "") {known others : String → Knowledge}
    (same : ∀ tensor ∈ old.reads, others (rename tensor) = known tensor) :
    propagator.evaluateWith after others next = propagator.evaluateWith before known old := by
  have op : next.op = old.op := Node.congr_strip task Node.op fun _ => rfl
  have outputs : next.outputs = old.outputs := Node.congr_strip task Node.outputs fun _ => rfl
  rw [evaluateWith, evaluateWith, op]
  split
  · rw [tableStates, tableStates, outputs]
    simp only [Graph.recordedShape?, shapes]
  · next transfer found =>
    have plain := (regular _ transfer found).plain
    rw [← plain next, ← plain old, task, inputs, List.map_map]
    cases folds : transfer.folds with
    | true =>
      refine congrArg _ (List.map_congr_left fun tensor listed => ?_)
      simp only [Function.comp, told, absent, Bool.not_true, Bool.false_and, Bool.false_eq_true,
        if_false]
      split
      · rfl
      · next present => exact same tensor (Node.mem_reads_iff.mpr ⟨listed, present⟩)
    | false =>
      have blind := (regular _ transfer found).blind folds old.task
      rw [← blind, ← blind (old.inputs.map _), List.map_map, List.map_map]
      refine congrArg _ (List.map_congr_left fun tensor listed => ?_)
      simp only [Function.comp, forgetValue_told, absent]
      split
      · rfl
      · next present => rw [same tensor (Node.mem_reads_iff.mpr ⟨listed, present⟩)]

/-! ## Closed knowledge -/

/-- Knowledge includes what is known before the first visit. -/
def Includes (graph : Graph) (known : String → Knowledge) : Prop :=
  ∀ tensor knowledge, (initialStates graph).get? tensor = some knowledge →
    known tensor = knowledge

/-- No visit finds out anything else. -/
def Closed (propagator : Propagator) (graph : Graph) (known : String → Knowledge) : Prop :=
  ∀ node ∈ graph.live, ∀ results, propagator.evaluateWith graph known node = .ok results →
    ∀ index tensor, node.outputs[index]? = some tensor → tensor ≠ "" →
      known tensor = results.getD index .unknown

/-- What is known before the first visit: the shapes of inputs, and then the constants. -/
theorem get?_initialStates (distinct : graph.constants.keys.Nodup) (tensor : String) :
    (initialStates graph).get? tensor =
      ((Dict.ofList (graph.inputs.filterMap fun edge =>
          edge.shape.map fun shape => (edge.id, Knowledge.shape shape))).get? tensor).or
        ((graph.constants.get? tensor).map .exact) := by
  rw [initialStates, Dict.get?_ofList_append, Dict.get?_ofList_map distinct]

theorem exists_initialStates_of_isConstant (distinct : graph.constants.keys.Nodup) {tensor : String}
    (constant : graph.isConstant tensor = true) :
    ∃ knowledge, (initialStates graph).get? tensor = some knowledge := by
  obtain ⟨value, held⟩ := Graph.isConstant_iff.mp constant
  refine Option.isSome_iff_exists.mp ?_
  rw [get?_initialStates distinct, held, Option.isSome_or, Option.map_some, Option.isSome_some,
    Bool.or_true]

/-- A constant that is no input is known by its value. -/
theorem initialStates_of_isConstant (distinct : graph.constants.keys.Nodup) {tensor : String}
    (apart : graph.isInput tensor = false) {value : Tensor}
    (held : graph.constants.get? tensor = some value) :
    (initialStates graph).get? tensor = some (.exact value) := by
  rw [get?_initialStates distinct, held]
  refine Option.or_eq_some_iff.mpr (.inr ⟨?_, rfl⟩)
  refine Option.eq_none_iff_forall_ne_some.mpr fun knowledge found => ?_
  obtain ⟨edge, listed, same⟩ := List.mem_filterMap.mp (Dict.mem_of_get?_ofList found)
  obtain ⟨shape, -, pair⟩ := Option.map_eq_some_iff.mp same
  obtain ⟨rfl, -⟩ := Prod.mk.inj pair
  rw [Graph.isInput_iff.mpr (List.mem_map_of_mem listed)] at apart
  cases apart

theorem isInput_or_isConstant_of_initialStates {tensor : String} {knowledge : Knowledge}
    (found : (initialStates graph).get? tensor = some knowledge) :
    graph.isInput tensor = true ∨ graph.isConstant tensor = true := by
  rcases List.mem_append.mp (Dict.mem_of_get?_ofList found) with constant | input
  · obtain ⟨⟨name, value⟩, member, pair⟩ := List.mem_map.mp constant
    obtain ⟨rfl, -⟩ := Prod.mk.inj pair
    exact .inr (Graph.isConstant_iff.mpr
      (Dict.mem_keys_iff.mp (List.mem_map.mpr ⟨_, member, rfl⟩)))
  · obtain ⟨edge, listed, same⟩ := List.mem_filterMap.mp input
    obtain ⟨shape, -, pair⟩ := Option.map_eq_some_iff.mp same
    obtain ⟨rfl, -⟩ := Prod.mk.inj pair
    exact .inl (Graph.isInput_iff.mpr (List.mem_map_of_mem listed))

/-- Nothing is known from the start about what a node writes. -/
theorem initialStates_of_mem_writes (exclusive : graph.Exclusive) {node : Node}
    (member : node ∈ graph.live) {tensor : String} (written : tensor ∈ node.writes) :
    (initialStates graph).get? tensor = none := by
  obtain ⟨notInput, notConstant⟩ := exclusive node member tensor written
  refine Option.eq_none_iff_forall_ne_some.mpr fun knowledge found => ?_
  rcases isInput_or_isConstant_of_initialStates found with input | constant
  · rw [notInput] at input
    cases input
  · rw [notConstant] at constant
    cases constant

/-! ## The run -/

/-- The findings of a visit are its results; a visit that fails finds out nothing. -/
theorem eq_ok_or_nil_of_findings {outcome : TransferResult} {results : List Knowledge}
    (found : findings outcome = some results) : outcome = .ok results ∨ results = [] := by
  unfold findings at found
  split at found
  · exact .inl (congrArg _ (Option.some.inj found))
  · cases found
  · exact .inr (Option.some.inj found).symm

/-- A run finds out no more than any closed knowledge that includes what it starts from. -/
theorem atMost_of_closed (regular : propagator.Regular) {known : String → Knowledge}
    (closed : Closed propagator graph known) (includes : Includes graph known)
    {propagation : Propagation} (yields : (propagator.run graph).run.Yields (.ok propagation))
    (tensor : String) : (propagation.state tensor).AtMost (known tensor) := by
  revert tensor
  refine run_invariant (fun states => ∀ tensor, (recorded states tensor).AtMost (known tensor))
    ?_ ?_ yields
  · intro node member progress next visited atMost tensor
    obtain ⟨results, noted, found, states, -, rfl⟩ := visit_cases visited
    rcases get?_recordAll graph node results noted tensor with
      same | ⟨index, position, present, learned⟩
    · rw [recorded, same, states]
      exact atMost tensor
    · rw [recorded, learned, Option.getD_some]
      rcases eq_ok_or_nil_of_findings found with evaluated | rfl
      · have settled := evaluateWith_mono regular (fun tensor _ => atMost tensor) evaluated
        exact .inr (closed node member _ settled index tensor position present).symm
      · exact .inl rfl
  · intro tensor
    rw [recorded]
    cases found : (initialStates graph).get? tensor with
    | none => exact .inl rfl
    | some knowledge => exact .inr (includes tensor knowledge found).symm

/-- What is known from the start is recorded, and whatever else is recorded about the output of a
node, a visit finds out again. -/
structure Founded (propagator : Propagator) (graph : Graph) (states : Dict Knowledge) : Prop where
  includes : Includes graph (recorded states)
  found : ∀ node ∈ graph.live, ∀ index tensor, node.outputs[index]? = some tensor → tensor ≠ "" →
    recorded states tensor = .unknown ∨
      ∃ results, propagator.evaluateWith graph (recorded states) node = .ok results ∧
        recorded states tensor = results.getD index .unknown

/-- What was recorded about an output is what a visit has found out once more. -/
private theorem Founded.atMost_recordAll {node : Node} (member : node ∈ graph.live)
    {progress noted : Progress} {results : List Knowledge}
    (founded : Founded propagator graph progress.states)
    (found : findings (propagator.evaluate graph progress.states node) = some results)
    (states : noted.states = progress.states) (tensor : String) :
    (recorded progress.states tensor).AtMost
      (recorded (recordAll graph node results noted).states tensor) := by
  rcases get?_recordAll graph node results noted tensor with
    same | ⟨index, position, present, learned⟩
  · rw [recorded, recorded, same, states]
    exact .refl _
  · rcases founded.found node member index tensor position present with
      unknown | ⟨earlier, done, same⟩
    · exact .inl unknown
    · rw [evaluate_eq, done] at found
      cases found
      rw [same, recorded, learned, Option.getD_some]
      exact .refl _

theorem Founded.visit (regular : propagator.Regular) (placed : graph.Placed)
    (single : Graph.SingleWriters graph.live) (exclusive : graph.Exclusive) {node : Node}
    (member : node ∈ graph.live) {progress next : Progress}
    (founded : Founded propagator graph progress.states)
    (visited : (propagator.visit graph node progress).run.Yields (.ok next)) :
    Founded propagator graph next.states := by
  obtain ⟨results, noted, found, states, -, rfl⟩ := visit_cases visited
  have grows := founded.atMost_recordAll member found states
  refine ⟨fun tensor knowledge known => ?_,
    fun other otherMember index tensor position present => ?_⟩
  · rcases get?_recordAll graph node results noted tensor with
      same | ⟨index, position, present, -⟩
    · rw [recorded, same, states]
      exact founded.includes tensor knowledge known
    · have written := Node.mem_writes_iff.mpr ⟨List.mem_of_getElem? position, present⟩
      rw [initialStates_of_mem_writes exclusive member written] at known
      cases known
  · rcases get?_recordAll graph node results noted tensor with
      same | ⟨place, wrote, -, learned⟩
    · rcases founded.found other otherMember index tensor position present with
        unknown | ⟨earlier, done, recordedThen⟩
      · exact .inl (by rwa [recorded, same, states])
      · refine .inr ⟨earlier, evaluateWith_mono regular (fun tensor _ => grows tensor) done, ?_⟩
        rwa [recorded, same, states]
    · -- The tensor has been recorded as an output of the node that was visited.
      have written := Node.mem_writes_iff.mpr ⟨List.mem_of_getElem? position, present⟩
      have wroteToo := Node.mem_writes_iff.mpr ⟨List.mem_of_getElem? wrote, present⟩
      have sameId := single.agree other otherMember node member tensor written wroteToo
      cases placed.eq_of_id otherMember member sameId
      obtain rfl := single.index_eq member present position wrote
      rw [recorded, learned, Option.getD_some]
      rcases eq_ok_or_nil_of_findings found with done | rfl
      · exact .inr ⟨results, evaluateWith_mono regular (fun tensor _ => grows tensor) done, rfl⟩
      · exact .inl rfl

/-- What a run has found out is founded, and a further visit finds out nothing else. -/
theorem closed_run (regular : propagator.Regular) {stale : List (Nat × Nat)}
    (traced : graph.Traced stale) (exclusive : graph.Exclusive) {propagation : Propagation}
    (yields : (propagator.run graph).run.Yields (.ok propagation)) :
    Includes graph propagation.state ∧ Closed propagator graph propagation.state := by
  have start : Founded propagator graph (initialStates graph) := by
    refine ⟨fun tensor knowledge known => ?_, fun node member index tensor position present => ?_⟩
    · rw [recorded, known, Option.getD_some]
    · have written := Node.mem_writes_iff.mpr ⟨List.mem_of_getElem? position, present⟩
      rw [recorded, initialStates_of_mem_writes exclusive member written]
      exact .inl rfl
  have founded : Founded propagator graph propagation.states :=
    run_invariant (Founded propagator graph)
      (fun _ member _ _ visited founded =>
        founded.visit regular traced.placed traced.single exclusive member visited) start yields
  refine ⟨founded.includes, fun node member results done index tensor position present => ?_⟩
  rcases founded.found node member index tensor position present with
    unknown | ⟨earlier, again, same⟩
  · -- A settled visit agrees that nothing is known, and then it has found out nothing.
    obtain ⟨findings, found, confirmed⟩ := settled_run traced yields node member
    rw [evaluate_eq] at found
    cases (congrArg Propagator.findings done).symm.trans found
    have agrees := confirmed index tensor position present
    rw [← recorded, unknown] at agrees
    exact unknown.trans (Knowledge.eq_unknown_of_agrees agrees).symm
  · cases done.symm.trans again
    exact same

end Propagator

end StaticNet
