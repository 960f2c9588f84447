import StaticNet.Proofs.Propagation.Least
import StaticNet.Proofs.Simplification.Sources

/-! # What is known about a simplified graph

A graph determines knowledge when nothing less that is closed agrees with what is known from the
start. What a run finds out is determined by its graph. It stays determined when nodes with known
outputs are folded, and when a node is bypassed whose output is known to be like its input. So a
run on the simplified graph finds out again what had been found out about the original one.
-/

namespace StaticNet

/-- A node that reads other tensors in place of those that it has read. What it writes keeps its
name. -/
structure Node.Renamed (rename : String → String) (old next : Node) : Prop where
  task : next.task = old.task
  inputs : next.inputs = old.inputs.map rename
  writes : ∀ tensor ∈ old.writes, rename tensor = tensor

namespace Graph

open Propagator (Includes Closed Regular evaluateWith initialStates)

variable {propagator : Propagator} {propagation : Propagation} {graph before after : Graph}
  {known : String → Knowledge} {rename : String → String}

/-- A live node reads or writes the tensor, or it is the absent one. -/
def Mentions (graph : Graph) (tensor : String) : Prop :=
  tensor = "" ∨ ∃ node ∈ graph.live, tensor ∈ node.reads ∨ tensor ∈ node.writes

/-- Knowledge is closed and includes what is known from the start, and no less is, as far as the
graph mentions the tensors that it is about. -/
structure Determines (propagator : Propagator) (known : String → Knowledge) (graph : Graph) :
    Prop where
  includes : Includes graph known
  closed : Closed propagator graph known
  least : ∀ other : String → Knowledge, Includes graph other → Closed propagator graph other →
    (∀ tensor, (other tensor).AtMost (known tensor)) → ∀ tensor, graph.Mentions tensor →
      other tensor = known tensor

theorem determines_run (regular : propagator.Regular) {stale : List (Nat × Nat)}
    (traced : graph.Traced stale) (exclusive : graph.Exclusive)
    (yields : (propagator.run graph).run.Yields (.ok propagation)) :
    graph.Determines propagator propagation.state := by
  obtain ⟨includes, closed⟩ := Propagator.closed_run regular traced exclusive yields
  refine ⟨includes, closed, fun other includesOther closedOther below tensor _ => ?_⟩
  exact (below tensor).antisymm
    (Propagator.atMost_of_closed regular closedOther includesOther yields tensor)

/-- A run finds out what its graph determines. -/
theorem Determines.state_eq (determines : graph.Determines propagator known)
    (regular : propagator.Regular) {stale : List (Nat × Nat)} (traced : graph.Traced stale)
    (exclusive : graph.Exclusive)
    (yields : (propagator.run graph).run.Yields (.ok propagation)) {tensor : String}
    (mentioned : graph.Mentions tensor) : propagation.state tensor = known tensor := by
  obtain ⟨includes, closed⟩ := Propagator.closed_run regular traced exclusive yields
  exact determines.least propagation.state includes closed
    (Propagator.atMost_of_closed regular determines.closed determines.includes yields)
    tensor mentioned

/-! ## Graphs with fewer nodes and other names -/

theorem mem_reads_renamed (absent : ∀ tensor, rename tensor = "" ↔ tensor = "") {old next : Node}
    (renamed : old.Renamed rename next) {tensor : String} :
    tensor ∈ next.reads ↔ ∃ read ∈ old.reads, rename read = tensor := by
  simp only [Node.mem_reads_iff, renamed.inputs, List.mem_map]
  constructor
  · rintro ⟨⟨read, listed, rfl⟩, present⟩
    exact ⟨read, ⟨listed, fun empty => present ((absent read).mpr empty)⟩, rfl⟩
  · rintro ⟨read, ⟨listed, present⟩, rfl⟩
    exact ⟨⟨read, listed, rfl⟩, fun empty => present ((absent read).mp empty)⟩

theorem writes_renamed {old next : Node} (renamed : old.Renamed rename next) :
    next.writes = old.writes :=
  Node.congr_strip renamed.task Node.writes fun _ => rfl

/-- Knowledge about a graph taken over to the one that it has come from. About tensors that have
gone, all is taken over that was known. -/
noncomputable def carried (rename : String → String) (known other : String → Knowledge)
    (after : Graph) (tensor : String) : Knowledge :=
  open Classical in if after.Mentions (rename tensor) then other (rename tensor) else known tensor

/-- The second graph is the first one with fewer nodes and with tensors renamed to others of the
same state. What becomes of the outputs of a node that has gone is known from the start, or can be
told from what it reads. -/
structure Carries (propagator : Propagator) (known : String → Knowledge)
    (rename : String → String) (before after : Graph) : Prop where
  shapes : after.shapes = before.shapes
  absent : ∀ tensor, rename tensor = "" ↔ tensor = ""
  same : ∀ tensor, known (rename tensor) = known tensor
  includes : Includes after known
  starts : ∀ tensor knowledge, (initialStates before).get? tensor = some knowledge →
    (initialStates after).get? (rename tensor) = some knowledge
  nodes : ∀ next ∈ after.live, ∃ old ∈ before.live, old.Renamed rename next
  stays : ∀ old ∈ before.live, (∃ next ∈ after.live, old.Renamed rename next) ∨
    ∀ other : String → Knowledge, Includes after other →
      (∀ tensor, (other tensor).AtMost (known tensor)) →
        ∀ results, propagator.evaluateWith before (carried rename known other after) old =
            .ok results →
          ∀ tensor ∈ old.writes, after.Mentions (rename tensor) →
            other (rename tensor) = known tensor

theorem Carries.mentions (carries : Carries propagator known rename before after) {tensor : String}
    (mentioned : after.Mentions tensor) : ∃ old, before.Mentions old ∧ rename old = tensor := by
  rcases mentioned with rfl | ⟨next, member, read | written⟩
  · exact ⟨"", .inl rfl, (carries.absent "").mpr rfl⟩
  · obtain ⟨old, oldMember, renamed⟩ := carries.nodes next member
    obtain ⟨earlier, oldRead, same⟩ := (mem_reads_renamed carries.absent renamed).mp read
    exact ⟨earlier, .inr ⟨old, oldMember, .inl oldRead⟩, same⟩
  · obtain ⟨old, oldMember, renamed⟩ := carries.nodes next member
    rw [writes_renamed renamed] at written
    exact ⟨tensor, .inr ⟨old, oldMember, .inr written⟩, renamed.writes tensor written⟩

theorem Carries.evaluateWith_eq (carries : Carries propagator known rename before after)
    (regular : propagator.Regular) {old next : Node} (renamed : old.Renamed rename next)
    {one other : String → Knowledge}
    (same : ∀ tensor ∈ old.reads, other (rename tensor) = one tensor) :
    propagator.evaluateWith after other next = propagator.evaluateWith before one old :=
  Propagator.evaluateWith_rename regular carries.shapes renamed.task renamed.inputs carries.absent
    same

section carried

variable {other : String → Knowledge} (carries : Carries propagator known rename before after)
  (below : ∀ tensor, (other tensor).AtMost (known tensor))
include carries

theorem Carries.includes_carried (includes : Includes before known)
    (includesOther : Includes after other) :
    Includes before (carried rename known other after) := by
  intro tensor knowledge found
  rw [carried]
  split
  · exact includesOther _ knowledge (carries.starts tensor knowledge found)
  · exact includes tensor knowledge found

include below

theorem Carries.carried_atMost (tensor : String) :
    (carried rename known other after tensor).AtMost (known tensor) := by
  rw [carried]
  split
  · exact carries.same tensor ▸ below (rename tensor)
  · exact .refl _

/-- What the later graph cannot improve on, the earlier one cannot improve on either. -/
theorem Carries.closed_carried (regular : propagator.Regular)
    (determines : before.Determines propagator known) (includesOther : Includes after other)
    (closedOther : Closed propagator after other) :
    Closed propagator before (carried rename known other after) := by
  intro old member results done index tensor position present
  have full := determines.closed old member results
    (Propagator.evaluateWith_mono regular (fun tensor _ => carries.carried_atMost below tensor)
      done) index tensor position present
  have written := Node.mem_writes_iff.mpr ⟨List.mem_of_getElem? position, present⟩
  by_cases mentioned : after.Mentions (rename tensor)
  · rw [carried, if_pos mentioned]
    rcases carries.stays old member with ⟨next, nextMember, renamed⟩ | gone
    · have again : propagator.evaluateWith after other next = .ok results := by
        rw [← done]
        refine carries.evaluateWith_eq regular renamed fun read listed => ?_
        have readAfter := (mem_reads_renamed carries.absent renamed).mpr ⟨read, listed, rfl⟩
        rw [carried, if_pos (.inr ⟨next, nextMember, .inl readAfter⟩)]
      have outputs : next.outputs = old.outputs :=
        Node.congr_strip renamed.task Node.outputs fun _ => rfl
      rw [renamed.writes tensor written]
      exact closedOther next nextMember results again index tensor (outputs ▸ position) present
    · exact (gone other includesOther below results done tensor written mentioned).trans full
  · rw [carried, if_neg mentioned]
    exact full

end carried

theorem Determines.carry (regular : propagator.Regular)
    (carries : Carries propagator known rename before after)
    (determines : before.Determines propagator known) : after.Determines propagator known := by
  refine ⟨carries.includes, ?_, ?_⟩
  · intro next member results done index tensor position present
    obtain ⟨old, oldMember, renamed⟩ := carries.nodes next member
    rw [carries.evaluateWith_eq regular renamed fun tensor _ => carries.same tensor] at done
    have outputs : next.outputs = old.outputs :=
      Node.congr_strip renamed.task Node.outputs fun _ => rfl
    rw [outputs] at position
    exact determines.closed old oldMember results done index tensor position present
  · intro other includesOther closedOther below tensor mentioned
    obtain ⟨old, oldMentioned, rfl⟩ := carries.mentions mentioned
    have same := determines.least _ (carries.includes_carried determines.includes includesOther)
      (carries.closed_carried below regular determines includesOther closedOther)
      (carries.carried_atMost below) old oldMentioned
    rw [carried, if_pos mentioned] at same
    exact same.trans (carries.same old).symm

/-! ## Folding -/

theorem eq_of_isConstant {other : String → Knowledge} (includes : Includes graph known)
    (includesOther : Includes graph other) (distinct : graph.constants.keys.Nodup) {tensor : String}
    (constant : graph.isConstant tensor = true) : other tensor = known tensor := by
  obtain ⟨knowledge, found⟩ := Propagator.exists_initialStates_of_isConstant distinct constant
  rw [includes tensor knowledge found, includesOther tensor knowledge found]

/-- Names of constants stay distinct when known values are attached. -/
theorem nodup_constants_fold {node : Node} (coherent : before.Coherent)
    (folds : Folds propagation node before after) (distinct : before.constants.keys.Nodup) :
    after.constants.keys.Nodup := by
  rw [folds.removed.shrinks.constants]
  exact (attachOutputs_invariant propagation (fun graph => graph.constants.keys.Nodup)
    (fun graph _ tensor _ value distinct =>
      nodup_constants_attachToConsumers graph tensor value distinct) coherent distinct).2.1

/-- Folding makes constant what is known, so that what is known from the start stays known. -/
theorem Folds.includes {node : Node} (coherent : before.Coherent)
    (folds : Folds propagation node before after) (distinct : before.constants.keys.Nodup)
    (includes : Includes before propagation.state) : Includes after propagation.state := by
  intro tensor knowledge found
  rw [Propagator.get?_initialStates (nodup_constants_fold coherent folds distinct),
    folds.removed.shrinks.inputs, folds.enriched.inputs, folds.removed.shrinks.constants,
    Option.or_eq_some_iff, Option.map_eq_some_iff] at found
  have started := Propagator.get?_initialStates distinct tensor
  rcases found with input | ⟨noInput, value, held, rfl⟩
  · rw [input, Option.some_or] at started
    exact includes tensor knowledge started
  · rw [noInput, Option.none_or] at started
    rcases folds.enriched.known tensor value held with earlier | learned
    · rw [earlier] at started
      exact includes tensor _ started
    · exact Knowledge.eq_exact learned

/-- A constant stays constant, and has the value that it is known to have. -/
private theorem Folds.starts {node : Node} (coherent : before.Coherent)
    (folds : Folds propagation node before after) (distinct : before.constants.keys.Nodup)
    (includes : Includes before propagation.state) {tensor : String} {knowledge : Knowledge}
    (started : (initialStates before).get? tensor = some knowledge) :
    (initialStates after).get? tensor = some knowledge := by
  have distinctAfter := nodup_constants_fold coherent folds distinct
  have inputs := folds.removed.shrinks.inputs.trans folds.enriched.inputs
  have found := started
  rw [Propagator.get?_initialStates distinct, Option.or_eq_some_iff, Option.map_eq_some_iff]
    at found
  rw [Propagator.get?_initialStates distinctAfter, inputs]
  rcases found with input | ⟨noInput, value, held, rfl⟩
  · rw [input, Option.some_or]
  · obtain ⟨next, heldNext⟩ := isConstant_iff.mp (folds.enriched.kept tensor
      (isConstant_iff.mpr ⟨value, held⟩))
    have startedAfter := Propagator.get?_initialStates distinctAfter tensor
    rw [inputs, noInput, folds.removed.shrinks.constants, heldNext] at startedAfter
    rw [noInput, folds.removed.shrinks.constants, heldNext, ← includes tensor _ started,
      folds.includes coherent distinct includes tensor _ startedAfter]
    rfl

/-- What a node that has gone had written is constant where it still is mentioned. -/
private theorem Folds.isConstant_of_gone {node : Node} (coherent : before.Coherent)
    (folds : Folds propagation node before after) (agree : WritersAgree before.live) {old : Node}
    (member : old ∈ before.live) (gone : ¬ ∃ next ∈ after.live, next.frame = old.frame)
    {tensor : String} (written : tensor ∈ old.writes) (mentioned : after.Mentions tensor) :
    after.isConstant tensor = true := by
  have unwritten : ∀ next ∈ after.live, tensor ∉ next.writes := by
    intro next nextMember wrote
    obtain ⟨origin, originMember, same⟩ := folds.live nextMember
    have sameId := agree origin originMember old member tensor
      (Node.congr_strip same Node.writes (fun _ => rfl) ▸ wrote) written
    cases coherent.placed.eq_of_id originMember member sameId
    exact gone ⟨next, nextMember, same⟩
  rcases mentioned with empty | ⟨next, nextMember, read | wrote⟩
  · exact absurd empty (Node.mem_writes_iff.mp written).2
  · obtain ⟨between, betweenMember, same⟩ := folds.enriched.of_live member
    rcases folds.removed.shrinks.writers between betweenMember tensor
        (Node.congr_strip same Node.writes (fun _ => rfl) ▸ written)
        (.inr ⟨next, nextMember, read⟩) with
      constant | ⟨last, lastMember, wrote⟩
    · rwa [isConstant, ← folds.removed.shrinks.constants] at constant
    · exact absurd wrote (unwritten last lastMember)
  · exact absurd wrote (unwritten next nextMember)

theorem Folds.carries {node : Node} (coherent : before.Coherent)
    (folds : Folds propagation node before after) (agree : WritersAgree before.live)
    (distinct : before.constants.keys.Nodup) (includes : Includes before propagation.state) :
    Carries propagator propagation.state id before after := by
  have distinctAfter := nodup_constants_fold coherent folds distinct
  have includesAfter := folds.includes coherent distinct includes
  have renamed : ∀ old next : Node, next.frame = old.frame → old.Renamed id next :=
    fun old next same => ⟨Node.congr_strip same Node.task (fun _ => rfl),
      by rw [Node.congr_strip same Node.inputs (fun _ => rfl), List.map_id], fun _ _ => rfl⟩
  refine ⟨folds.removed.shrinks.shapes.trans folds.enriched.shapes, fun _ => Iff.rfl,
    fun _ => rfl, includesAfter, fun _ _ => folds.starts coherent distinct includes, ?_, ?_⟩
  · intro next member
    obtain ⟨old, oldMember, same⟩ := folds.live member
    exact ⟨old, oldMember, renamed old next same⟩
  · intro old member
    by_cases stays : ∃ next ∈ after.live, next.frame = old.frame
    · obtain ⟨next, nextMember, same⟩ := stays
      exact .inl ⟨next, nextMember, renamed old next same⟩
    · refine .inr fun other includesOther _ results _ tensor written mentioned => ?_
      exact eq_of_isConstant includesAfter includesOther distinctAfter
        (folds.isConstant_of_gone coherent agree member stays written mentioned)

/-! ## Bypassing -/

/-- The tensor that is read in place of another when a node is bypassed. -/
def shortcut (node : Node) (tensor : String) : String :=
  if tensor = node.output 0 then node.input 0 else tensor

/-- A node that may pass its first input on finds nothing out without it. -/
theorem isKnown_of_evaluateWith (builtin : propagator.transfers = Transfer.builtin) {node : Node}
    (passes : node.op ∈ GraphSpec.passingOperators) (present : node.input 0 ≠ "")
    {results : List Knowledge} (done : propagator.evaluateWith graph known node = .ok results) :
    (known (node.input 0)).isKnown = true := by
  obtain ⟨transfer, found, needs⟩ := Transfer.exists_passing passes
  rw [evaluateWith, builtin, found] at done
  have first := needs _ _ _ done
  have told : (node.inputs.map (Propagator.told graph transfer.folds known)).getD 0 .unknown =
      Propagator.told graph transfer.folds known (node.input 0) := by
    rw [Node.input] at present ⊢
    cases inputs : node.inputs with
    | nil => exact absurd (by rw [inputs]; rfl) present
    | cons head rest => rfl
  rw [told, Propagator.told, if_neg present] at first
  split at first
  · rwa [Knowledge.isKnown_forgetValue] at first
  · exact first

theorem Bypasses.renamed {node : Node} (placed : before.Placed)
    (bypasses : Bypasses propagation node before after) (agree : WritersAgree before.live)
    {old next : Node} (member : old ∈ before.live) (different : old ≠ node)
    (alike : next.Like (redirect (node.output 0) (node.input 0)
      (before.constants.get? (node.input 0)) old)) : old.Renamed (shortcut node) next := by
  obtain ⟨constants, redirected⟩ := redirect_eq (node.output 0) (node.input 0)
    (before.constants.get? (node.input 0)) old
  refine ⟨?_, ?_, fun tensor written => if_neg ?_⟩
  · rw [alike.congr Node.task (fun _ => rfl), redirected]
    rfl
  · rw [alike.inputs, redirected]
    rfl
  · rintro rfl
    have sameId := agree old member node bypasses.member _ written
      (Node.writes_of_first bypasses.output).1
    exact different (placed.eq_of_id member bypasses.member sameId)

/-- Of the outputs of the bypassed node, only the one that it passed on is mentioned any more. -/
private theorem Bypasses.eq_output_of_mentions {node : Node} (placed : before.Placed)
    (bypasses : Bypasses propagation node before after) (agree : WritersAgree before.live)
    {tensor : String} (wrote : tensor ∈ node.writes)
    (mentioned : after.Mentions (shortcut node tensor)) : tensor = node.output 0 := by
  obtain ⟨-, -, outputs⟩ := Node.writes_of_first bypasses.output
  obtain ⟨output, present⟩ := Node.mem_writes_iff.mp wrote
  by_contra other
  rw [shortcut, if_neg other] at mentioned
  rw [outputs] at output
  have secondary := (List.mem_cons.mp output).resolve_left other
  rcases mentioned with empty | ⟨next, nextMember, read | wroteToo⟩
  · exact present empty
  · exact bypasses.idle tensor secondary present
      (bypasses.uses_of_uses (.inr ⟨next, nextMember, read⟩))
  · obtain ⟨origin, originMember, apart, alike⟩ := bypasses.nodes next nextMember
    rw [alike.writes, writes_redirect] at wroteToo
    have sameId := agree origin originMember node bypasses.member tensor wroteToo wrote
    exact apart (placed.eq_of_id originMember bypasses.member sameId)

/-- A bypassed node that finds something out knows the state of what it passes on. -/
private theorem Bypasses.eq_of_evaluateWith {node : Node}
    (builtin : propagator.transfers = Transfer.builtin)
    (bypasses : Bypasses propagation node before after) {other : String → Knowledge}
    (below : ∀ tensor, (other tensor).AtMost (known tensor)) {results : List Knowledge}
    (done : propagator.evaluateWith before (carried (shortcut node) known other after) node =
      .ok results)
    (mentioned : after.Mentions (node.input 0)) :
    other (node.input 0) = known (node.input 0) := by
  have passed : shortcut node (node.input 0) = node.input 0 := by
    rw [shortcut]
    split <;> rfl
  have told := isKnown_of_evaluateWith builtin (mem_passingOperators bypasses.passes)
    bypasses.input done
  rw [carried, passed, if_pos mentioned] at told
  exact (below _).eq_of_isKnown told

theorem Bypasses.carries {node : Node} (builtin : propagator.transfers = Transfer.builtin)
    (placed : before.Placed) (bypasses : Bypasses propagation node before after)
    (agree : WritersAgree before.live) (exclusive : before.Exclusive)
    (includes : Includes before known) (same : known (node.output 0) = known (node.input 0)) :
    Carries propagator known (shortcut node) before after := by
  obtain ⟨written, -⟩ := Node.writes_of_first bypasses.output
  have initial : initialStates after = initialStates before := by
    rw [initialStates, initialStates, bypasses.inputs, bypasses.constants]
  refine ⟨bypasses.shapes, ?_, ?_, ?_, ?_, ?_, ?_⟩
  · intro tensor
    rw [shortcut]
    split
    · next here => simp [here, bypasses.input, bypasses.output]
    · exact Iff.rfl
  · intro tensor
    rw [shortcut]
    split
    · next here => rw [here, same]
    · rfl
  · rwa [Includes, initial]
  · intro tensor knowledge found
    rw [shortcut, if_neg, initial, found]
    rintro rfl
    rw [Propagator.initialStates_of_mem_writes exclusive bypasses.member written] at found
    cases found
  · intro next member
    obtain ⟨old, oldMember, different, alike⟩ := bypasses.nodes next member
    exact ⟨old, oldMember, bypasses.renamed placed agree oldMember different alike⟩
  · intro old member
    by_cases different : old = node
    · subst different
      refine .inr fun other _ below results done tensor wrote mentioned => ?_
      have first := bypasses.eq_output_of_mentions placed agree wrote mentioned
      rw [shortcut, if_pos first] at mentioned ⊢
      rw [first, same]
      exact bypasses.eq_of_evaluateWith builtin below done mentioned
    · obtain ⟨next, nextMember, alike⟩ := bypasses.kept old member different
      exact .inl ⟨next, nextMember, bypasses.renamed placed agree member different alike⟩

end Graph

end StaticNet
