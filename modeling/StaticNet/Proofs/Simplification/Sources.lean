import StaticNet.Proofs.Graph.Editing

/-! # Where live nodes read from

In a sequenced graph every tensor that a live node reads is an input, a constant, or written by a
live node before it. Nodes keep their ids, so the order of ids says which node comes first. Folding
and bypassing a node keep a graph sequenced, provided that no node writes an input or a constant.
-/

namespace StaticNet.Graph

variable {propagation : Propagation}

/-- A tensor is an input, a constant, or written by a live node before an id. -/
inductive Sourced (graph : Graph) (id : Nat) (tensor : String) : Prop
  | input : graph.isInput tensor = true → Sourced graph id tensor
  | constant : graph.isConstant tensor = true → Sourced graph id tensor
  | written (writer : Node) : writer ∈ graph.live → writer.id < id → tensor ∈ writer.writes →
      Sourced graph id tensor

/-- A graph in which everything that is read has a source, and one only. -/
structure Sequenced (graph : Graph) : Prop where
  agree : WritersAgree graph.live
  shares : graph.SharesNames
  exclusive : graph.Exclusive
  sourced : ∀ reader ∈ graph.live, ∀ tensor ∈ reader.reads, graph.Sourced reader.id tensor

theorem Sourced.mono {graph : Graph} {id later : Nat} {tensor : String}
    (sourced : graph.Sourced id tensor) (le : id ≤ later) : graph.Sourced later tensor := by
  cases sourced with
  | input given => exact .input given
  | constant known => exact .constant known
  | written writer member less written => exact .written writer member (less.trans_le le) written

/-- What has its source in a node comes after that node. -/
theorem Sequenced.lt_of_sourced {graph : Graph} (sequenced : graph.Sequenced) {writer : Node}
    (member : writer ∈ graph.live) {id : Nat} {tensor : String} (written : tensor ∈ writer.writes)
    (sourced : graph.Sourced id tensor) : writer.id < id := by
  obtain ⟨notInput, notConstant⟩ := sequenced.exclusive writer member tensor written
  cases sourced with
  | input given =>
    rw [notInput] at given
    cases given
  | constant known =>
    rw [notConstant] at known
    cases known
  | written other otherMember less otherWrites =>
    rwa [← sequenced.agree other otherMember writer member tensor otherWrites written]

/-- Indices that are exact miss nothing. -/
theorem Traced.coherent {graph : Graph} {stale : List (Nat × Nat)} (traced : graph.Traced stale) :
    graph.Coherent where
  placed := traced.placed
  readers := traced.readersListed
  children := by
    intro parent parentMember child childMember tensor written read
    have produced := (get?_producerIndex_iff traced.single.agree tensor parent.id).mpr
      ⟨parent, parentMember, rfl, written⟩
    rw [traced.mem_children_iff parentMember childMember, traced.parents child childMember]
    exact (mem_parentIds_iff _ child parent.id).mpr ⟨tensor, read, produced⟩

/-! ## Names of constants under edits -/

/-- Names stay shared when constants stay and nodes gain only names of constants. -/
theorem SharesNames.of_gains {before after : Graph} (shares : before.SharesNames)
    (kept : ∀ tensor, before.isConstant tensor = true → after.isConstant tensor = true)
    (gains : ∀ node ∈ after.live, ∀ tensor, node.hasConstant tensor = true →
      after.isConstant tensor = true ∨ ∃ old ∈ before.live, old.hasConstant tensor = true) :
    after.SharesNames := by
  intro node member tensor attached
  rcases gains node member tensor attached with constant | ⟨old, present, held⟩
  · exact constant
  · exact kept tensor (shares old present tensor held)

theorem SharesNames.of_like {before after : Graph} (shares : before.SharesNames)
    (constants : after.constants = before.constants)
    (like : ∀ node ∈ after.live, ∃ old ∈ before.live, node.Like old) : after.SharesNames := by
  refine shares.of_gains (fun tensor constant => ?_) fun node member tensor attached => ?_
  · rwa [isConstant, constants]
  · obtain ⟨old, present, alike⟩ := like node member
    exact .inr ⟨old, present, by rwa [Node.hasConstant, alike.constants] at attached⟩

theorem SharesNames.reindex {graph : Graph} (shares : graph.SharesNames) :
    graph.reindex.SharesNames :=
  shares.of_like rfl fun _ member => mem_live_reindex member

theorem SharesNames.remove {graph : Graph} (shares : graph.SharesNames) (id : Nat) :
    (graph.remove id).graph.SharesNames := by
  have start : SharesNames (Removal.mk graph []).graph := shares
  refine removeWithin_invariant ?_ ?_ graph.size id start
  · intro graph node shares
    obtain ⟨nodes, same⟩ := detach_eq graph node
    refine shares.of_like (by rw [same]) fun other member => ?_
    obtain ⟨position, found⟩ := mem_live_iff.mp member
    obtain ⟨-, old, present, alike, -⟩ := node?_of_detach found
    exact ⟨old, mem_live_iff.mpr ⟨position, present⟩, alike⟩
  · exact fun graph parent child shares =>
      shares.of_like rfl fun _ member => (Shrinks.dropChild graph parent child).live member

theorem SharesNames.unlink {graph : Graph} (shares : graph.SharesNames) (id : Nat) :
    (graph.unlink id).SharesNames := by
  rw [Graph.unlink]
  split
  · exact shares
  · refine SharesNames.reindex (shares.of_like rfl fun node member => ?_)
    obtain ⟨position, found⟩ := mem_live_iff.mp member
    rw [node?_set_none] at found
    split at found
    · cases found
    · exact ⟨node, mem_live_iff.mpr ⟨position, found⟩, .refl node⟩

theorem SharesNames.rewire {graph : Graph} (shares : graph.SharesNames)
    (old replacement : String) : (graph.rewire old replacement).SharesNames := by
  refine SharesNames.reindex (shares.of_gains (fun _ constant => constant) ?_)
  intro node member tensor attached
  obtain ⟨position, found⟩ := mem_live_iff.mp member
  rw [node?_map] at found
  obtain ⟨before, present, rfl⟩ := Option.map_eq_some_iff.mp found
  obtain ⟨value, held⟩ := Option.isSome_iff_exists.mp attached
  rcases get?_constants_redirect held with earlier | ⟨rfl, known⟩
  · exact .inr ⟨before, mem_live_iff.mpr ⟨position, present⟩,
      Option.isSome_iff_exists.mpr ⟨value, earlier⟩⟩
  · exact .inl (isConstant_iff.mpr ⟨value, known⟩)

theorem SharesNames.pinConstant {graph : Graph} (shares : graph.SharesNames) (id : Nat)
    (tensor : String) (value : Tensor) : (graph.pinConstant id tensor value).SharesNames := by
  rw [Graph.pinConstant]
  split
  · exact shares
  · have inserted : ∀ other, (graph.constants.insert tensor value).contains other =
        (decide (other = tensor) || graph.isConstant other) := by
      intro other
      rw [Dict.contains, Dict.get?_insert, isConstant, Dict.contains]
      split <;> simp [*]
    refine shares.of_gains (fun other constant => ?_) fun node member other attached => ?_
    · exact (inserted other).trans (by simp [constant])
    · obtain ⟨position, found⟩ := mem_live_iff.mp member
      rw [node?_updateNode] at found
      split at found
      · obtain ⟨old, present, rfl⟩ := Option.map_eq_some_iff.mp found
        by_cases same : other = tensor
        · exact .inl ((inserted other).trans (by simp [same]))
        · rw [Node.hasConstant, Node.attach, Dict.contains, Dict.get?_insert, if_neg same]
            at attached
          exact .inr ⟨old, mem_live_iff.mpr ⟨position, present⟩, attached⟩
      · exact .inr ⟨node, mem_live_iff.mpr ⟨position, found⟩, attached⟩

theorem SharesNames.edited {graph : Graph} (shares : graph.SharesNames) (edits : List Edit) :
    (graph.edited edits).SharesNames := by
  have anywhere : ∀ (graph : Graph) (id : Int) (change : Nat → Graph), graph.SharesNames →
      (∀ id, (change id).SharesNames) → (graph.editAt id change).SharesNames := by
    intro graph id change shares keeps
    rw [editAt]
    split
    · exact shares
    · exact keeps _
  refine List.foldlRecOn edits edit shares fun graph shares change _ => ?_
  cases change with
  | remove id => exact anywhere graph id _ shares shares.remove
  | unlink id => exact anywhere graph id _ shares shares.unlink
  | rewire old replacement => exact shares.rewire old replacement
  | renameOutput old replacement => exact shares
  | pinConstant id tensor value =>
    exact anywhere graph id _ shares fun id => shares.pinConstant id tensor value
  | recordShape tensor shape => exact shares

theorem Built.sharesNames {spec : GraphSpec} {graph : Graph} (built : Built spec graph) :
    graph.SharesNames := by
  intro node member tensor attached
  obtain ⟨value, held⟩ := Option.isSome_iff_exists.mp attached
  exact isConstant_iff.mpr ⟨value, (built.attached node member tensor value held).1⟩

/-! ## Folding -/

/-- What is left after folding a node was there before, up to constants and places. -/
theorem Folds.node? {node : Node} {before after : Graph}
    (folds : Folds propagation node before after) {id : Nat} {next : Node}
    (found : after.node? id = some next) :
    ∃ old, before.node? id = some old ∧ next.frame = old.frame := by
  obtain ⟨between, betweenFound, alike⟩ := folds.removed.shrinks.nodes id next found
  have view := folds.enriched.nodes id
  rw [betweenFound, Option.map_some, eq_comm, Option.map_eq_some_iff] at view
  obtain ⟨old, oldFound, same⟩ := view
  exact ⟨old, oldFound, (alike.congr Node.frame fun _ => rfl).trans
    (Node.congr_strip same Node.frame fun _ => rfl).symm⟩

theorem Folds.live {node : Node} {before after : Graph}
    (folds : Folds propagation node before after) {next : Node} (present : next ∈ after.live) :
    ∃ old ∈ before.live, next.frame = old.frame := by
  obtain ⟨id, found⟩ := mem_live_iff.mp present
  obtain ⟨old, oldFound, same⟩ := folds.node? found
  exact ⟨old, mem_live_iff.mpr ⟨id, oldFound⟩, same⟩

theorem WritersAgree.fold {node : Node} {before after : Graph}
    (folds : Folds propagation node before after) (agree : WritersAgree before.live) :
    WritersAgree after.live := by
  refine agree.of_alike fun next present => ?_
  obtain ⟨old, oldMember, same⟩ := folds.live present
  exact ⟨old, oldMember, (Node.congr_strip same Node.id fun _ => rfl).symm,
    (Node.congr_strip same Node.writes fun _ => rfl).symm⟩

/-- What the remaining nodes write does not become constant: folding makes only what the folded node
writes constant, and that node is gone. -/
theorem Folds.isConstant_eq_false {node : Node} {before after : Graph} (coherent : before.Coherent)
    (folds : Folds propagation node before after) (agree : WritersAgree before.live)
    {next : Node} (present : next ∈ after.live) {tensor : String} (written : tensor ∈ next.writes)
    (unset : before.isConstant tensor = false) : after.isConstant tensor = false := by
  refine Bool.eq_false_iff.mpr fun constant => ?_
  rw [isConstant, folds.removed.shrinks.constants, ← isConstant] at constant
  obtain ⟨old, oldMember, same⟩ := folds.live present
  rcases isConstant_attachOutputs coherent propagation node constant with earlier | output
  · rw [unset] at earlier
    cases earlier
  · -- The writer of the tensor would be the folded node itself.
    have ownWrite := Node.mem_writes_iff.mpr ⟨output, (Node.mem_writes_iff.mp written).2⟩
    have samePlace := agree old oldMember node folds.member tensor
      (Node.congr_strip same Node.writes (fun _ => rfl) ▸ written) ownWrite
    have found := folds.removed.coherent.placed.node?_of_mem present
    rw [Node.congr_strip same Node.id (fun _ => rfl), samePlace, folds.removed.gone] at found
    cases found

theorem SharesNames.fold {node : Node} {before after : Graph} (coherent : before.Coherent)
    (folds : Folds propagation node before after) (shares : before.SharesNames) :
    after.SharesNames :=
  (shares.attachOutputs coherent propagation node).of_like folds.removed.shrinks.constants
    fun _ present => folds.removed.shrinks.live present

theorem Exclusive.fold {node : Node} {before after : Graph} (coherent : before.Coherent)
    (folds : Folds propagation node before after) (agree : WritersAgree before.live)
    (exclusive : before.Exclusive) : after.Exclusive := by
  intro next present tensor written
  obtain ⟨old, oldMember, same⟩ := folds.live present
  obtain ⟨notInput, notConstant⟩ := exclusive old oldMember tensor
    (Node.congr_strip same Node.writes (fun _ => rfl) ▸ written)
  refine ⟨?_, folds.isConstant_eq_false coherent agree present written notConstant⟩
  rwa [isInput, folds.removed.shrinks.inputs, folds.enriched.inputs]

/-- The node that is folded is gone, and with it the only node that may write what has become
constant. What the others read of it is constant now. -/
theorem Sequenced.fold {node : Node} {before after : Graph} (coherent : before.Coherent)
    (folds : Folds propagation node before after) (sequenced : before.Sequenced) :
    after.Sequenced := by
  have enriched := folds.enriched
  have shrinks := folds.removed.shrinks
  have inputs : ∀ tensor, after.isInput tensor = before.isInput tensor := by
    intro tensor
    rw [isInput, isInput, shrinks.inputs, enriched.inputs]
  have constants : ∀ tensor, after.isConstant tensor =
      (before.attachOutputs propagation node).isConstant tensor := by
    intro tensor
    rw [isConstant, isConstant, shrinks.constants]
  refine ⟨sequenced.agree.fold folds, sequenced.shares.fold coherent folds,
    sequenced.exclusive.fold coherent folds sequenced.agree, ?_⟩
  · intro next present tensor read
    obtain ⟨old, oldMember, frame⟩ := folds.live present
    have id : old.id = next.id := (Node.congr_strip frame Node.id fun _ => rfl).symm
    cases sequenced.sourced old oldMember tensor
        (Node.congr_strip frame Node.reads (fun _ => rfl) ▸ read) with
    | input given => exact .input ((inputs tensor).trans given)
    | constant known => exact .constant ((constants tensor).trans (enriched.kept tensor known))
    | written writer writerMember less written =>
      obtain ⟨between, betweenMember, same⟩ := enriched.of_live writerMember
      rw [← Node.congr_strip same Node.writes fun _ => rfl] at written
      rcases shrinks.writers between betweenMember tensor written (.inr ⟨next, present, read⟩) with
        known | ⟨last, lastMember, wrote⟩
      · exact .constant ((constants tensor).trans known)
      · obtain ⟨first, firstMember, firstFrame⟩ := folds.live lastMember
        have agreed := sequenced.agree first firstMember writer writerMember tensor
          (Node.congr_strip firstFrame Node.writes (fun _ => rfl) ▸ wrote)
          (Node.congr_strip same Node.writes (fun _ => rfl) ▸ written)
        have firstId := Node.congr_strip firstFrame Node.id fun _ => rfl
        exact .written last lastMember (by omega) wrote

/-! ## Bypassing -/

theorem WritersAgree.bypass {node : Node} {before after : Graph}
    (bypasses : Bypasses propagation node before after) (agree : WritersAgree before.live) :
    WritersAgree after.live := by
  refine agree.of_alike fun next present => ?_
  obtain ⟨old, oldMember, -, alike⟩ := bypasses.nodes next present
  exact ⟨old, oldMember, (alike.id.trans id_redirect).symm,
    (alike.writes.trans writes_redirect).symm⟩

theorem SharesNames.bypass {node : Node} {before after : Graph}
    (bypasses : Bypasses propagation node before after) (shares : before.SharesNames) :
    after.SharesNames := by
  have constants : ∀ tensor, after.isConstant tensor = before.isConstant tensor := by
    intro tensor
    rw [isConstant, isConstant, bypasses.constants]
  refine shares.of_gains (fun tensor known => (constants tensor).trans known) ?_
  intro next present tensor attached
  obtain ⟨old, oldMember, -, alike⟩ := bypasses.nodes next present
  obtain ⟨value, held⟩ := Option.isSome_iff_exists.mp attached
  rw [alike.constants] at held
  rcases get?_constants_redirect held with earlier | ⟨rfl, known⟩
  · exact .inr ⟨old, oldMember, Option.isSome_iff_exists.mpr ⟨value, earlier⟩⟩
  · exact .inl ((constants _).trans (isConstant_iff.mpr ⟨value, known⟩))

theorem Exclusive.bypass {node : Node} {before after : Graph}
    (bypasses : Bypasses propagation node before after) (exclusive : before.Exclusive) :
    after.Exclusive := by
  intro next present tensor written
  obtain ⟨old, oldMember, -, alike⟩ := bypasses.nodes next present
  rw [alike.writes, writes_redirect] at written
  rw [isInput, isConstant, bypasses.inputs, bypasses.constants]
  exact exclusive old oldMember tensor written

/-- What is not read from the bypassed node still has its source. -/
private theorem Bypasses.sourced {node : Node} {before after : Graph}
    (bypasses : Bypasses propagation node before after) {id : Nat} {tensor : String}
    (sourced : before.Sourced id tensor)
    (foreign : ∀ writer ∈ before.live, tensor ∈ writer.writes → writer ≠ node) :
    after.Sourced id tensor := by
  cases sourced with
  | input given =>
    refine .input ?_
    rwa [isInput, bypasses.inputs]
  | constant known =>
    refine .constant ?_
    rwa [isConstant, bypasses.constants]
  | written writer member less written =>
    obtain ⟨next, present, alike⟩ := bypasses.kept writer member (foreign writer member written)
    refine .written next present ?_ ?_
    · rwa [alike.id, id_redirect]
    · rwa [alike.writes, writes_redirect]

/-- Whatever read the bypassed node comes after it, and so after the source that it read itself. -/
private theorem Sequenced.sourced_input {node : Node} {before after : Graph}
    (bypasses : Bypasses propagation node before after) (sequenced : before.Sequenced) {id : Nat}
    (sourced : before.Sourced id (node.output 0)) : after.Sourced id (node.input 0) := by
  obtain ⟨ownWrite, -⟩ := Node.writes_of_first bypasses.output
  have later := sequenced.lt_of_sourced bypasses.member ownWrite sourced
  have ownSource := sequenced.sourced node bypasses.member _ (Node.reads_of_first bypasses.input)
  refine bypasses.sourced (ownSource.mono later.le) ?_
  rintro writer member written rfl
  exact absurd (sequenced.lt_of_sourced member written ownSource) (Nat.lt_irrefl _)

theorem Sequenced.bypass {node : Node} {before after : Graph}
    (bypasses : Bypasses propagation node before after) (sequenced : before.Sequenced) :
    after.Sequenced := by
  refine ⟨sequenced.agree.bypass bypasses, sequenced.shares.bypass bypasses,
    sequenced.exclusive.bypass bypasses, ?_⟩
  intro next present tensor read
  obtain ⟨old, oldMember, -, alike⟩ := bypasses.nodes next present
  rw [alike.reads, mem_reads_redirect bypasses.output bypasses.input] at read
  rw [alike.id, id_redirect]
  obtain ⟨original, originalRead, rfl⟩ := read
  have sourced := sequenced.sourced old oldMember original originalRead
  split
  · next same =>
    subst same
    exact sequenced.sourced_input bypasses sourced
  · next different =>
    refine bypasses.sourced sourced ?_
    rintro writer member written rfl
    -- The bypassed node writes nothing else that is read.
    obtain ⟨-, -, outputs⟩ := Node.writes_of_first bypasses.output
    obtain ⟨output, present⟩ := Node.mem_writes_iff.mp written
    rw [outputs] at output
    have secondary := (List.mem_cons.mp output).resolve_left different
    exact bypasses.idle original secondary present (.inr ⟨old, oldMember, originalRead⟩)

end StaticNet.Graph
