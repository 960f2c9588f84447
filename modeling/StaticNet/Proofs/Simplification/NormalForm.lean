import StaticNet.Proofs.Simplification.Knowledge
import StaticNet.Proofs.Simplification.Passes

/-! # Graphs in normal form

Simplifying folds once and then bypasses once, so that what a bypass brings to light is left to
another run. On a graph in normal form another run has nothing to do. Simplification leads to such a
graph when whatever it bypasses has forwarded all that was known.
-/

namespace StaticNet.Graph

open Propagator (Includes)

variable {propagator : Propagator} {propagation : Propagation} {graph before after : Graph}

/-! ## Tidy graphs -/

/-- Every tensor has one source, and what the graph stores about constants and readers can be relied
on. -/
structure Tidy (graph : Graph) : Prop where
  agree : WritersAgree graph.live
  exclusive : graph.Exclusive
  shares : graph.SharesNames
  lists : graph.ListsReaders
  distinct : graph.constants.keys.Nodup
  apart : ∀ tensor, graph.isInput tensor = true → graph.isConstant tensor = false

/-- Folding makes constant what the folded node writes. -/
theorem Folds.isConstant {node : Node} (coherent : before.Coherent) (lists : before.ListsReaders)
    (folds : Folds propagation node before after) {tensor : String}
    (constant : after.isConstant tensor = true) :
    before.isConstant tensor = true ∨ tensor ∈ node.writes := by
  rw [Graph.isConstant, folds.removed.shrinks.constants, ← Graph.isConstant] at constant
  have attached : (before.attachOutputs propagation node).ListsReaders ∧
      ((before.attachOutputs propagation node).isConstant tensor = true →
        before.isConstant tensor = true ∨ tensor ∈ node.writes) :=
    (attachOutputs_invariant propagation (fun graph => graph.ListsReaders ∧
        (graph.isConstant tensor = true → before.isConstant tensor = true ∨ tensor ∈ node.writes))
      (fun graph coherent output listed value good => by
        refine ⟨good.1.attachToConsumers coherent.placed output value, fun present => ?_⟩
        rw [isConstant_iff, get?_attachToConsumers coherent.placed] at present
        split at present
        · next here =>
          obtain ⟨rfl, inhabited⟩ := here
          refine .inr (Node.mem_writes_iff.mpr ⟨listed, ?_⟩)
          rintro rfl
          exact inhabited (good.1.consumersOf_empty coherent.placed)
        · exact good.2 (isConstant_iff.mpr present))
      coherent ⟨lists, .inl⟩).2.1
  exact attached.2 constant

theorem Tidy.fold {node : Node} (coherent : before.Coherent)
    (folds : Folds propagation node before after) (tidy : before.Tidy) : after.Tidy where
  agree := tidy.agree.fold folds
  exclusive := tidy.exclusive.fold coherent folds tidy.agree
  shares := tidy.shares.fold coherent folds
  lists := tidy.lists.fold coherent folds
  distinct := nodup_constants_fold coherent folds tidy.distinct
  apart := by
    intro tensor input
    rw [isInput, folds.removed.shrinks.inputs, folds.enriched.inputs, ← isInput] at input
    refine Bool.eq_false_iff.mpr fun constant => ?_
    rcases folds.isConstant coherent tidy.lists constant with earlier | written
    · rw [tidy.apart tensor input] at earlier
      cases earlier
    · rw [(tidy.exclusive node folds.member tensor written).1] at input
      cases input

theorem Tidy.bypass {node : Node} (traced : after.Traced [])
    (bypasses : Bypasses propagation node before after) (tidy : before.Tidy) : after.Tidy where
  agree := traced.single.agree
  exclusive := tidy.exclusive.bypass bypasses
  shares := tidy.shares.bypass bypasses
  lists := traced.listsReaders
  distinct := by
    rw [bypasses.constants]
    exact tidy.distinct
  apart := by
    intro tensor input
    rw [isInput, bypasses.inputs] at input
    rw [Graph.isConstant, bypasses.constants]
    exact tidy.apart tensor input

/-- What a node has attached is known by its value, so that what is attached adds nothing. -/
theorem Tidy.or_constants (tidy : graph.Tidy) (includes : Includes graph propagation.state)
    {node : Node} (member : node ∈ graph.live) (tensor : String) :
    (propagation.state tensor).value?.or (node.constants.get? tensor) =
      (propagation.state tensor).value? := by
  cases attached : node.constants.get? tensor with
  | none => exact Option.or_none
  | some value =>
    have constant := tidy.shares node member tensor (Option.isSome_iff_exists.mpr ⟨value, attached⟩)
    obtain ⟨held, found⟩ := isConstant_iff.mp constant
    have apart : graph.isInput tensor = false := by
      refine Bool.eq_false_iff.mpr fun input => ?_
      rw [tidy.apart tensor input] at constant
      cases constant
    rw [includes tensor _ (Propagator.initialStates_of_isConstant tidy.distinct apart found)]
    rfl

/-! ## Nodes that are passed over -/

/-- Bypassing a node changes what is known about the shapes of the tensors that it joins only. -/
theorem Bypasses.knownShape? {node : Node} (bypasses : Bypasses propagation node before after)
    {tensor : String} (notOutput : tensor ≠ node.output 0) (notInput : tensor ≠ node.input 0) :
    after.knownShape? tensor = before.knownShape? tensor := by
  have stated : (edgeNamed? after.outputs tensor).bind Edge.shape =
      (edgeNamed? before.outputs tensor).bind Edge.shape := by
    have named : ∀ edge : Edge, decide ((if edge.id = node.output 0 then
        { edge with id := node.input 0 } else edge).id = tensor) = decide (edge.id = tensor) := by
      intro edge
      split
      · next here => simp [here, notOutput.symm, notInput.symm]
      · rfl
    rw [edgeNamed?, edgeNamed?, bypasses.outputs, List.find?_map, Option.bind_map]
    simp only [Function.comp_def, named]
    congr 1
    funext edge
    split <;> rfl
  rw [Graph.knownShape?, Graph.knownShape?, statedShape?, statedShape?, bypasses.inputs, stated,
    bypasses.constants, recordedShape?, recordedShape?, bypasses.shapes]

theorem state_input_of_like {node old next : Node} {value : Option Tensor}
    (alike : next.Like (redirect (node.output 0) (node.input 0) value old))
    (output : node.output 0 ≠ "")
    (same : propagation.state (node.output 0) = propagation.state (node.input 0)) (index : Nat) :
    propagation.state (next.input index) = propagation.state (old.input index) := by
  have input : next.input index =
      if old.input index = node.output 0 then node.input 0 else old.input index := by
    rw [← input_redirect output index]
    exact alike.congr (fun node => node.input index) fun _ => rfl
  rw [input]
  split
  · next here => rw [here, same]
  · rfl

/-- When the state of what is passed on is the state of the bypassed output, the other nodes that
pass their first input on stay the same. If it is unknown, a reshape must read something known. -/
theorem Bypasses.isPassThrough_eq {node : Node}
    (bypasses : Bypasses propagation node before after) (tidy : before.Tidy)
    (tidyAfter : after.Tidy) (includes : Includes before propagation.state)
    (includesAfter : Includes after propagation.state)
    (same : propagation.state (node.output 0) = propagation.state (node.input 0)) {old next : Node}
    (oldMember : old ∈ before.live) (nextMember : next ∈ after.live)
    (alike : next.Like (redirect (node.output 0) (node.input 0)
      (before.constants.get? (node.input 0)) old))
    (told : old.op = "Reshape" → (propagation.state (node.input 0)).isKnown = true ∨
      (propagation.state (old.input 0)).isKnown = true) :
    after.isPassThrough propagation next = before.isPassThrough propagation old := by
  have keeps : old.op = "Reshape" →
      after.keepsShape propagation next = before.keepsShape propagation old := by
    intro reshapes
    have state := state_input_of_like alike bypasses.output same
    have target := tidyAfter.or_constants includesAfter nextMember (next.input 1)
    rw [state] at target
    simp only [keepsShape, tidy.or_constants includes oldMember, state, target]
    by_cases known : (propagation.state (old.input 0)).isKnown = true
    · rw [if_pos known, if_pos known]
    · -- Nothing is known about the tensor, so that it is not one of those that are joined.
      have passed := (told reshapes).resolve_right known
      have notOutput : old.input 0 ≠ node.output 0 := by
        intro here
        rw [here, same] at known
        exact known passed
      have notInput : old.input 0 ≠ node.input 0 := by
        intro here
        rw [here] at known
        exact known passed
      have input : next.input 0 = old.input 0 := by
        refine (alike.congr (fun node => node.input 0) fun _ => rfl).trans ?_
        rw [input_redirect bypasses.output, if_neg notOutput]
      rw [if_neg known, if_neg known, input, bypasses.knownShape? notOutput notInput]
  rw [isPassThrough, isPassThrough, alike.op, op_redirect]
  by_cases reshapes : old.op = "Reshape"
  · rw [keeps reshapes]
  · simp only [reshapes, decide_false, Bool.false_and]

/-! ## The bypassing pass -/

/-- No live node has the id. -/
def Lacks (graph : Graph) (id : Nat) : Prop := ∀ node ∈ graph.live, node.id ≠ id

/-- What is known about the nodes that a later graph lacks: each passes on a tensor of the same
state, and when that is unknown, something is known about what the remaining reshapes read. -/
structure Forwards (propagation : Propagation) (graph final : Graph) : Prop where
  same : ∀ node ∈ graph.live, final.Lacks node.id →
    propagation.state (node.output 0) = propagation.state (node.input 0)
  told : ∀ node ∈ graph.live, final.Lacks node.id → ∀ other ∈ graph.live, other.op = "Reshape" →
    ¬ final.Lacks other.id → (propagation.state (node.input 0)).isKnown = true ∨
      (propagation.state (other.input 0)).isKnown = true

/-- What holds at each step between a folded graph and the end of the pass: nothing has come into
use, and known nodes yield declared outputs. -/
structure Underway (propagator : Propagator) (propagation : Propagation)
    (start final graph : Graph) : Prop where
  tidy : graph.Tidy
  determines : graph.Determines propagator propagation.state
  uses : ∀ tensor, graph.Uses tensor → start.Uses tensor
  yielding : ∀ node ∈ graph.live, propagation.folds node = true → graph.yieldsOutput node = true
  forwards : Forwards propagation graph final

/-- The node of an id leaves, does more than passing its first input on, or was pinned at first. -/
def PinnedAt (propagation : Propagation) (start final graph : Graph) (id : Nat) : Prop :=
  ¬ final.Lacks id → ∀ node, graph.node? id = some node →
    graph.isPassThrough propagation node = true → start.Pinned node

theorem Pinned.of_shortcut {node old next : Node} {value : Option Tensor}
    (alike : next.Like (redirect (node.output 0) (node.input 0) value old))
    (input : node.input 0 ≠ "") (output : node.output 0 ≠ "") (pinned : graph.Pinned old) :
    graph.Pinned next := by
  have outputs : next.outputs = old.outputs := alike.outputs.trans outputs_redirect
  refine ⟨?_, ?_, ?_⟩
  · rw [alike.congr (fun node => node.input 0) (fun _ => rfl), input_redirect output]
    split
    · exact input
    · exact pinned.input
  · rw [Node.output, outputs]
    exact pinned.output
  · rw [secondaryInUse?, outputs]
    exact pinned.secondary

theorem Forwards.bypass {final : Graph} {node : Node}
    (bypasses : Bypasses propagation node before after) (gone : final.Lacks node.id)
    (forwards : Forwards propagation before final) : Forwards propagation after final := by
  have same := forwards.same node bypasses.member gone
  have origin : ∀ next ∈ after.live, ∃ old ∈ before.live, next.id = old.id ∧ next.op = old.op ∧
      next.output 0 = old.output 0 ∧
      propagation.state (next.input 0) = propagation.state (old.input 0) := by
    intro next member
    obtain ⟨old, oldMember, -, alike⟩ := bypasses.nodes next member
    refine ⟨old, oldMember, alike.id.trans id_redirect, alike.op.trans op_redirect, ?_,
      state_input_of_like alike bypasses.output same 0⟩
    rw [Node.output, Node.output, alike.outputs, outputs_redirect]
  constructor
  · intro next member leaves
    obtain ⟨old, oldMember, id, -, output, state⟩ := origin next member
    rw [output, state]
    exact forwards.same old oldMember (id ▸ leaves)
  · intro next member leaves other otherMember reshapes stays
    obtain ⟨old, oldMember, id, -, -, state⟩ := origin next member
    obtain ⟨reader, readerMember, readerId, op, -, readerState⟩ := origin other otherMember
    rw [state, readerState]
    exact forwards.told old oldMember (id ▸ leaves) reader readerMember (op ▸ reshapes)
      (readerId ▸ stays)

/-- A node that yields a declared output goes on to do so when another node is bypassed. -/
theorem Bypasses.yieldsOutput {node : Node} (placed : before.Placed)
    (bypasses : Bypasses propagation node before after) (agree : WritersAgree before.live)
    {old : Node} (member : old ∈ before.live) (different : old ≠ node)
    (yields : before.yieldsOutput old = true) : after.yieldsOutput old = true := by
  obtain ⟨tensor, listed, declared⟩ := List.any_eq_true.mp yields
  obtain ⟨edge, edgeListed, rfl⟩ := isOutput_iff.mp declared
  refine List.any_eq_true.mpr ⟨edge.id, listed, isOutput_iff.mpr ⟨edge, ?_, rfl⟩⟩
  rw [bypasses.outputs]
  refine List.mem_map.mpr ⟨edge, edgeListed, if_neg fun here => different ?_⟩
  -- Only the bypassed node wrote the output that is renamed.
  exact placed.eq_of_id member bypasses.member (agree old member node bypasses.member _
    (Node.mem_writes_iff.mpr ⟨here ▸ listed, bypasses.output⟩)
    (Node.writes_of_first bypasses.output).1)

theorem Underway.bypass {start final : Graph} (regular : propagator.Regular)
    (builtin : propagator.transfers = Transfer.builtin) {node : Node} (traced : before.Traced [])
    (tracedAfter : after.Traced []) (bypasses : Bypasses propagation node before after)
    (gone : final.Lacks node.id)
    (underway : Underway propagator propagation start final before) :
    Underway propagator propagation start final after ∧
      PinnedAt propagation start final after node.id ∧
      ∀ id, PinnedAt propagation start final before id →
        PinnedAt propagation start final after id := by
  have same := underway.forwards.same node bypasses.member gone
  have tidy := underway.tidy.bypass tracedAfter bypasses
  have determines := underway.determines.carry regular (bypasses.carries builtin traced.placed
    underway.tidy.agree underway.tidy.exclusive underway.determines.includes same)
  refine ⟨⟨tidy, determines, fun tensor used => underway.uses tensor (bypasses.uses_of_uses used),
    ?_, underway.forwards.bypass bypasses gone⟩, fun stays => absurd gone stays,
    fun id pinned stays next found passes => ?_⟩
  · intro next member folds
    obtain ⟨old, oldMember, different, alike⟩ := bypasses.nodes next member
    have outputs : next.outputs = old.outputs := alike.outputs.trans outputs_redirect
    rw [Propagation.folds, outputs] at folds
    rw [Graph.yieldsOutput, outputs]
    exact bypasses.yieldsOutput traced.placed underway.tidy.agree oldMember different
      (underway.yielding old oldMember folds)
  · have member := mem_live_iff.mpr ⟨id, found⟩
    obtain ⟨old, oldMember, -, alike⟩ := bypasses.nodes next member
    have place : old.id = id :=
      (alike.id.trans id_redirect).symm.trans (tracedAfter.placed id next found)
    subst place
    rw [bypasses.isPassThrough_eq underway.tidy tidy underway.determines.includes
      determines.includes same oldMember member alike fun reshapes =>
        underway.forwards.told node bypasses.member gone old oldMember reshapes stays] at passes
    exact (pinned stays old (traced.placed.node?_of_mem oldMember) passes).of_shortcut alike
      bypasses.input bypasses.output

/-! ## What is known afterwards -/

theorem mentions_input {node : Node} (member : node ∈ graph.live) (index : Nat) :
    graph.Mentions (node.input index) := by
  by_cases absent : node.input index = ""
  · exact .inl absent
  · refine .inr ⟨node, member, .inl (Node.mem_reads_iff.mpr ⟨?_, absent⟩)⟩
    rw [Node.input, List.getD_eq_getElem?_getD] at absent ⊢
    cases found : node.inputs[index]? with
    | none => exact absurd (by rw [found]; rfl) absent
    | some tensor => exact List.mem_of_getElem? found

variable {again : Propagation}
  (agree : ∀ tensor, graph.Mentions tensor → again.state tensor = propagation.state tensor)
include agree

theorem folds_congr {node : Node} (member : node ∈ graph.live) :
    again.folds node = propagation.folds node := by
  have outputs : (node.outputs.all fun tensor => tensor = "" || (again.state tensor).isExact) =
      node.outputs.all fun tensor => tensor = "" || (propagation.state tensor).isExact := by
    rw [Bool.eq_iff_iff, List.all_eq_true, List.all_eq_true]
    refine forall₂_congr fun tensor listed => ?_
    by_cases absent : tensor = ""
    · simp [absent]
    · rw [agree tensor (.inr ⟨node, member, .inr (Node.mem_writes_iff.mpr ⟨listed, absent⟩)⟩)]
  rw [Propagation.folds, Propagation.folds, outputs]

theorem isPassThrough_congr {node : Node} (member : node ∈ graph.live) :
    graph.isPassThrough again node = graph.isPassThrough propagation node := by
  rw [isPassThrough, isPassThrough, keepsShape, keepsShape, agree _ (mentions_input member 0),
    agree _ (mentions_input member 1)]

omit agree

/-! ## Simplified graphs -/

theorem nodup_constants_edited (edits : List Edit) (distinct : graph.constants.keys.Nodup) :
    (graph.edited edits).constants.keys.Nodup := by
  have anywhere : ∀ (graph : Graph) (id : Int) (change : Nat → Graph),
      graph.constants.keys.Nodup → (∀ id, (change id).constants.keys.Nodup) →
        (graph.editAt id change).constants.keys.Nodup := by
    intro graph id change distinct keeps
    rw [editAt]
    split
    · exact distinct
    · exact keeps _
  refine List.foldlRecOn (motive := fun graph : Graph => graph.constants.keys.Nodup) edits edit
    distinct fun graph distinct change _ => ?_
  cases change with
  | remove id =>
    have detached : ∀ (graph : Graph) (node : Node), graph.constants.keys.Nodup →
        (graph.detach node).constants.keys.Nodup := by
      intro graph node distinct
      obtain ⟨nodes, same⟩ := detach_eq graph node
      rw [same]
      exact distinct
    have here : (Removal.mk graph []).graph.constants.keys.Nodup := distinct
    exact anywhere graph id _ distinct fun id =>
      removeWithin_invariant detached (fun _ _ _ distinct => distinct) graph.size id here
  | unlink id =>
    refine anywhere graph id _ distinct fun id => ?_
    rw [unlink]
    split
    · exact distinct
    · exact distinct
  | rewire old replacement => exact distinct
  | renameOutput old replacement => exact distinct
  | pinConstant id tensor value =>
    refine anywhere graph id _ distinct fun id => ?_
    rw [pinConstant]
    split
    · exact distinct
    · exact Dict.nodup_keys_insert graph.constants tensor value distinct
  | recordShape tensor shape => exact distinct

/-- Nothing is left to be folded or bypassed, as far as something is known, and a further run finds
out the same. -/
structure Normal (propagator : Propagator) (propagation : Propagation) (graph : Graph) : Prop where
  traced : graph.Traced []
  tidy : graph.Tidy
  determines : graph.Determines propagator propagation.state
  yielding : ∀ node ∈ graph.live, propagation.folds node = true → graph.yieldsOutput node = true
  pinned : ∀ node ∈ graph.live, graph.isPassThrough propagation node = true → graph.Pinned node

theorem Normal.simplify_eq {again : Propagation} (normal : graph.Normal propagator propagation)
    (regular : propagator.Regular) (yields : (propagator.run graph).run.Yields (.ok again))
    {outcome : Simplified × Option SimplifyError}
    (simplified : (graph.simplify again).Yields outcome) : outcome = (⟨graph, [], []⟩, none) := by
  have agree : ∀ tensor, graph.Mentions tensor → again.state tensor = propagation.state tensor :=
    fun _ mentioned => normal.determines.state_eq regular normal.traced normal.tidy.exclusive yields
      mentioned
  obtain ⟨folding, fold, rest⟩ := Logged.Yields.of_bind simplified
  obtain rfl := foldConstants_idle (fun node member folds =>
    normal.yielding node member (folds_congr agree member ▸ folds)) fold
  obtain ⟨bypassing, bypass, last⟩ := Logged.Yields.of_bind rest
  obtain rfl := bypassNops_idle (fun node member passes =>
    normal.pinned node member (isPassThrough_congr agree member ▸ passes)) bypass
  exact Logged.Yields.of_pure last

/-- Folding and then bypassing reaches a normal form when the nodes that are bypassed forward what
is known, and every node that is kept for another output still has one in use. -/
theorem normal_of_passes (builtin : propagator.transfers = Transfer.builtin)
    (regular : propagator.Regular) (traced : graph.Traced []) (tidy : graph.Tidy)
    (determines : graph.Determines propagator propagation.state) {folding final : Reduction}
    (fold : (graph.foldConstants propagation).Yields folding)
    (bypass : (folding.graph.bypassNops propagation).Yields (final, none))
    (forwards : Forwards propagation folding.graph final.graph)
    (kept : ∀ node ∈ final.graph.live, final.graph.isPassThrough propagation node = true →
      (folding.graph.secondaryInUse? node).isSome = true →
        (final.graph.secondaryInUse? node).isSome = true) :
    final.graph.Normal propagator propagation := by
  obtain ⟨coherent, tidyFolded, determinesFolded⟩ := foldConstants_induction
    (fun graph => graph.Tidy ∧ graph.Determines propagator propagation.state)
    (fun _ _ _ coherent folds kept => ⟨kept.1.fold coherent folds, kept.2.carry regular
      (folds.carries coherent kept.1.agree kept.1.distinct kept.2.includes)⟩)
    traced.coherent ⟨tidy, determines⟩ fold
  have folded := traced.foldConstants fold
  have tracedFolded : (Reduction.mk folding.graph []).graph.Traced [] := folded
  have start : Underway propagator propagation folding.graph final.graph
      (Reduction.mk folding.graph []).graph :=
    ⟨tidyFolded, determinesFolded, fun _ used => used, fun node member folds =>
      yieldsOutput_of_foldConstants traced.coherent fold (coherent.placed.node?_of_mem member)
        folds, forwards⟩
  obtain ⟨tracedFinal, underway, visited⟩ := bypassNodes_each
    (fun _ _ _ traced tracedAfter bypasses gone underway =>
      underway.bypass regular builtin traced tracedAfter bypasses gone)
    (fun graph id traced underway pinned _ node found passes => by
      obtain ⟨input, output, secondary⟩ := pinned node found passes
      obtain ⟨tensor, listed, present, used⟩ := (isSome_secondaryInUse?_iff traced).mp secondary
      exact ⟨input, output, (isSome_secondaryInUse?_iff folded).mpr
        ⟨tensor, listed, present, underway.uses tensor used⟩⟩)
    tracedFolded start bypass
  refine ⟨tracedFinal, underway.tidy, underway.determines, underway.yielding, ?_⟩
  intro node member passes
  have due : PinnedAt propagation folding.graph final.graph folding.graph node.id ∨
      node.id ∈ folding.graph.live.map Node.id := by
    cases present : folding.graph.node? node.id with
    | none => exact .inl fun _ other found => nomatch present.symm.trans found
    | some other =>
      refine .inr ?_
      rw [← folded.placed _ other present]
      exact List.mem_map_of_mem (mem_live_iff.mpr ⟨_, present⟩)
  obtain ⟨input, output, secondary⟩ := visited node.id due (fun lacks => lacks node member rfl) node
    (tracedFinal.placed.node?_of_mem member) passes
  exact ⟨input, output, kept node member passes secondary⟩

theorem lacks_iff (placed : graph.Placed) {id : Nat} : graph.Lacks id ↔ graph.node? id = none := by
  constructor
  · intro lacks
    refine Option.eq_none_iff_forall_ne_some.mpr fun node found => ?_
    exact lacks node (mem_live_iff.mpr ⟨id, found⟩) (placed id node found)
  · rintro absent node member rfl
    rw [placed.node?_of_mem member] at absent
    cases absent

/-- A simplified graph is left as it is when propagation runs through it once more and it is
simplified again. No node may write an input or a constant, and no input may be constant. What a
bypassed node has passed on must have the state of its output; where that is unknown, no reshape
that is left may read a tensor of unknown state. A node that passes its first input on and was kept
for another output must still have one in use. -/
theorem simplify_idle {spec : GraphSpec} {start : Graph} {again : Propagation}
    {journal next later last : Journal} {result : Simplified}
    (builtin : propagator.transfers = Transfer.builtin)
    (built : build spec = .ok start) (distinct : spec.initializers.keys.Nodup) (edits : List Edit)
    (exclusive : (start.edited edits).Exclusive)
    (apart : ∀ tensor, (start.edited edits).isInput tensor = true →
      (start.edited edits).isConstant tensor = false)
    (run : ((propagator.run (start.edited edits)).run.run journal).1 = .ok propagation)
    (simplified : (((start.edited edits).simplify propagation).run next).1 = (result, none))
    {folded : Graph}
    (folding : (((start.edited edits).foldConstants propagation).run next).1.graph = folded)
    (same : ∀ node ∈ folded.live, result.graph.node? node.id = none →
      propagation.state (node.output 0) = propagation.state (node.input 0))
    (told : ∀ node ∈ folded.live, result.graph.node? node.id = none →
      ∀ other ∈ folded.live, other.op = "Reshape" → result.graph.node? other.id ≠ none →
        (propagation.state (node.input 0)).isKnown = true ∨
          (propagation.state (other.input 0)).isKnown = true)
    (kept : ∀ node ∈ result.graph.live, result.graph.isPassThrough propagation node = true →
      (folded.secondaryInUse? node).isSome = true →
        (result.graph.secondaryInUse? node).isSome = true)
    (rerun : ((propagator.run result.graph).run.run later).1 = .ok again) :
    ((result.graph.simplify again).run last).1 = (⟨result.graph, [], []⟩, none) := by
  subst folding
  have regular : propagator.Regular := fun op transfer found =>
    Transfer.regular_builtin (builtin ▸ found)
  have facts := built_of_build built
  have traced := (traced_of_build built).edited edits
  have tidy : (start.edited edits).Tidy := ⟨traced.single.agree, exclusive,
    facts.sharesNames.edited edits, traced.listsReaders,
    nodup_constants_edited edits (facts.constants ▸ distinct), apart⟩
  have determines := determines_run regular traced exclusive (.of_run run)
  have fold : ((start.edited edits).foldConstants propagation).Yields
      (((start.edited edits).foldConstants propagation).run next).1 := .of_run rfl
  have rest : ((((start.edited edits).foldConstants propagation).run next).1.graph.bypassNops
      propagation >>= fun outcome => pure ((⟨outcome.1.graph,
        (((start.edited edits).foldConstants propagation).run next).1.removed,
          outcome.1.removed⟩ : Simplified), outcome.2)).Yields (result, none) := ⟨_, simplified⟩
  obtain ⟨⟨final, cause⟩, bypass, done⟩ := Logged.Yields.of_bind rest
  cases Logged.Yields.of_pure done
  have tracedFolded := traced.foldConstants fold
  obtain ⟨placed, -, -⟩ := bypassNops_invariant (fun _ _ _ _ (kept : True) => kept)
    tracedFolded.placed tracedFolded.readersListed trivial bypass
  have forwards : Forwards propagation
      (((start.edited edits).foldConstants propagation).run next).1.graph final.graph :=
    ⟨fun node member leaves => same node member ((lacks_iff placed).mp leaves),
      fun node member leaves other otherMember reshapes stays =>
        told node member ((lacks_iff placed).mp leaves) other otherMember reshapes
          fun absent => stays ((lacks_iff placed).mpr absent)⟩
  have normal := normal_of_passes builtin regular traced tidy determines fold bypass forwards kept
  exact normal.simplify_eq regular (.of_run rerun) (.of_run rfl)

/-! ## A graph that is simplified at once -/

/-- The target of one reshape is computed, and that of the other is constant. The identity passes on
what a node keeps for its mask, and the mask goes on to be read. An edit lets a reshape read the
input. -/
def masked : GraphSpec where
  name := "masked"
  nodes :=
    [ ⟨"shape", "Shape", ["x"], ["s"], .empty⟩,
      ⟨"keep", "Reshape", ["q", "s"], ["h"], .empty⟩,
      ⟨"drop", "Dropout", ["h"], ["d", "m"], .empty⟩,
      ⟨"same", "Identity", ["d"], ["e"], .empty⟩,
      ⟨"turn", "Reshape", ["e", "t"], ["y"], .empty⟩,
      ⟨"mask", "Relu", ["m"], ["z"], .empty⟩ ]
  inputs := [⟨"x", 1, some [2]⟩]
  outputs := [⟨"y", 1, some [2, 1]⟩, ⟨"z", 1, none⟩]
  initializers := Dict.ofList [("t", Tensor.vector [2, 1])]
  values := []

/-- The graph of the description. -/
def maskedGraph : Graph := (build masked).toOption.get rfl

/-- The graph after the edit. -/
def maskedStart : Graph := maskedGraph.edited [.rewire "q" "x"]

private theorem isSome_masked :
    ((Propagator.builtin.run maskedStart).run.run []).1.toOption.isSome = true := by
  decide +kernel

/-- What propagation finds out about the graph. -/
def maskedKnowledge : Propagation :=
  ((Propagator.builtin.run maskedStart).run.run []).1.toOption.get isSome_masked

/-- What is left of the graph. -/
def maskedResult : Simplified := ((maskedStart.simplify maskedKnowledge).run []).1.1

private theorem isSome_maskedResult :
    ((Propagator.builtin.run maskedResult.graph).run.run []).1.toOption.isSome = true := by
  decide +kernel

/-- What propagation finds out about what is left. -/
def maskedAgain : Propagation :=
  ((Propagator.builtin.run maskedResult.graph).run.run []).1.toOption.get isSome_maskedResult

/-- One node is folded, two are bypassed, one is kept for its mask and one for what it does, once
and for all. -/
theorem simplify_idle_masked :
    maskedResult.folded = ["shape"] ∧ maskedResult.bypassed = ["keep", "same"] ∧
      maskedResult.graph.live.map Node.name = ["drop", "turn", "mask"] ∧
      ((maskedResult.graph.simplify maskedAgain).run []).1 =
        (⟨maskedResult.graph, [], []⟩, none) := by
  have built : build masked = .ok maskedGraph := rfl
  have exclusive : maskedStart.Exclusive := by
    unfold Exclusive
    decide +kernel
  have inputs : ∀ tensor ∈ maskedStart.inputs.map Edge.id,
      maskedStart.isConstant tensor = false := by
    decide +kernel
  have run : ((Propagator.builtin.run maskedStart).run.run []).1 = .ok maskedKnowledge :=
    Outcome.eq_ok_get isSome_masked
  have evaluated : (maskedResult.folded = ["shape"] ∧ maskedResult.bypassed = ["keep", "same"] ∧
        maskedResult.graph.live.map Node.name = ["drop", "turn", "mask"]) ∧
      ((maskedStart.simplify maskedKnowledge).run []).1.2 = none ∧
      (∀ node ∈ ((maskedStart.foldConstants maskedKnowledge).run []).1.graph.live,
        maskedResult.graph.node? node.id = none →
          maskedKnowledge.state (node.output 0) = maskedKnowledge.state (node.input 0)) ∧
      (∀ node ∈ ((maskedStart.foldConstants maskedKnowledge).run []).1.graph.live,
        maskedResult.graph.node? node.id = none →
          ∀ other ∈ ((maskedStart.foldConstants maskedKnowledge).run []).1.graph.live,
            other.op = "Reshape" → maskedResult.graph.node? other.id ≠ none →
              (maskedKnowledge.state (node.input 0)).isKnown = true ∨
                (maskedKnowledge.state (other.input 0)).isKnown = true) ∧
      ∀ node ∈ maskedResult.graph.live,
        maskedResult.graph.isPassThrough maskedKnowledge node = true →
          (((maskedStart.foldConstants maskedKnowledge).run []).1.graph.secondaryInUse?
            node).isSome = true → (maskedResult.graph.secondaryInUse? node).isSome = true := by
    decide +kernel
  obtain ⟨⟨folded, bypassed, left⟩, succeeds, same, told, kept⟩ := evaluated
  have simplified : ((maskedStart.simplify maskedKnowledge).run []).1 = (maskedResult, none) := by
    rw [maskedResult, ← succeeds]
  have rerun : ((Propagator.builtin.run maskedResult.graph).run.run []).1 = .ok maskedAgain :=
    Outcome.eq_ok_get isSome_maskedResult
  exact ⟨folded, bypassed, left,
    simplify_idle rfl built (by decide +kernel) [.rewire "q" "x"] exclusive
      (fun tensor input => inputs tensor (isInput_iff.mp input)) run simplified rfl same told kept
        rerun⟩

/-! ## A graph that is not -/

/-- The identity passes a constant on, of which only the shape is known behind it. -/
def hidden : GraphSpec where
  name := "hidden"
  nodes :=
    [ ⟨"same", "Identity", ["w"], ["v"], .empty⟩,
      ⟨"join", "Concat", ["v", "w"], ["s"], Dict.ofList [("axis", .int 0)]⟩,
      ⟨"last", "Reshape", ["x", "s"], ["y"], .empty⟩ ]
  inputs := [⟨"x", 1, some [4]⟩]
  outputs := [⟨"y", 1, none⟩]
  initializers := Dict.ofList [("w", Tensor.vector [2])]
  values := []

/-- The graph of the description. -/
def hiddenGraph : Graph := (build hidden).toOption.get rfl

private theorem isSome_hidden :
    ((Propagator.builtin.run hiddenGraph).run.run []).1.toOption.isSome = true := by
  decide +kernel

/-- What propagation finds out about the graph. -/
def hiddenKnowledge : Propagation :=
  ((Propagator.builtin.run hiddenGraph).run.run []).1.toOption.get isSome_hidden

/-- What is left of the graph. -/
def hiddenResult : Simplified := ((hiddenGraph.simplify hiddenKnowledge).run []).1.1

private theorem isSome_hiddenResult :
    ((Propagator.builtin.run hiddenResult.graph).run.run []).1.toOption.isSome = true := by
  decide +kernel

/-- Once the identity is gone, the sum of the constant with itself is known and folded. -/
theorem not_idle_hidden :
    ¬ ∀ (spec : GraphSpec) (graph : Graph) (knowledge again : Propagation) (result : Simplified),
      build spec = .ok graph →
        ((Propagator.builtin.run graph).run.run []).1 = .ok knowledge →
          ((graph.simplify knowledge).run []).1 = (result, none) →
            ((Propagator.builtin.run result.graph).run.run []).1 = .ok again →
              ((result.graph.simplify again).run []).1.1.folded = [] ∧
                ((result.graph.simplify again).run []).1.1.bypassed = [] := by
  intro idle
  have built : build hidden = .ok hiddenGraph := rfl
  have succeeds : ((hiddenGraph.simplify hiddenKnowledge).run []).1.2 = none := by
    decide +kernel
  have simplified : ((hiddenGraph.simplify hiddenKnowledge).run []).1 = (hiddenResult, none) := by
    rw [hiddenResult, ← succeeds]
  obtain ⟨folded, -⟩ := idle hidden hiddenGraph hiddenKnowledge _ hiddenResult built
    (Outcome.eq_ok_get isSome_hidden) simplified (Outcome.eq_ok_get isSome_hiddenResult)
  revert folded
  decide +kernel

end StaticNet.Graph
