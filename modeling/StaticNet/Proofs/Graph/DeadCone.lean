import Mathlib.Order.Bounds.Basic
import StaticNet.Proofs.Graph.Editing

/-! # What a removal takes away

Removing a node goes on to the parents that are left without children, while the child lists that
decide this are being edited. The cascade ends, and whatever the order in which it visits the
parents, what it takes away is the least set that contains the node and every node whose children
are all in the set, unless the node has no children or produces a declared output.
-/

namespace StaticNet.Graph

/-! ## The cascade without a bound -/

/-- What a cascade has yet to do: remove a node, or tell parents about a child that is gone. -/
inductive Errand where
  | remove (id : Nat)
  | settle (child : Nat) (parents : List Nat)

namespace Removal

/-- Take a node out and count it as removed. -/
def detach (state : Removal) (node : Node) : Removal :=
  ⟨state.graph.detach node, state.removed ++ [node]⟩

/-- Take a node out of the child list of a parent. -/
def dropChild (state : Removal) (parent child : Nat) : Removal :=
  { state with graph := state.graph.dropChild parent child }

end Removal

/-- A cascade that ends, step by step and with no bound on its depth. -/
inductive Cascade : Removal → Errand → Removal → Prop where
  | absent {state : Removal} {id : Nat} (gone : state.graph.node? id = none) :
      Cascade state (.remove id) state
  | present {state final : Removal} {id : Nat} {node : Node}
      (found : state.graph.node? id = some node)
      (rest : Cascade (state.detach node) (.settle id node.parents) final) :
      Cascade state (.remove id) final
  | done {state : Removal} {child : Nat} : Cascade state (.settle child []) state
  | stays {state final : Removal} {child parent : Nat} {parents : List Nat}
      (alive : (state.dropChild parent child).graph.isDeadEnd parent = false)
      (rest : Cascade (state.dropChild parent child) (.settle child parents) final) :
      Cascade state (.settle child (parent :: parents)) final
  | follows {state middle final : Removal} {child parent : Nat} {parents : List Nat}
      (dead : (state.dropChild parent child).graph.isDeadEnd parent = true)
      (first : Cascade (state.dropChild parent child) (.remove parent) middle)
      (rest : Cascade middle (.settle child parents) final) :
      Cascade state (.settle child (parent :: parents)) final

/-- Nothing that was removed comes back. -/
theorem Cascade.removed_prefix {state final : Removal} {errand : Errand}
    (run : Cascade state errand final) : state.removed <+: final.removed := by
  induction run with
  | absent => exact List.prefix_rfl
  | present _ _ ih => exact (List.prefix_append _ _).trans ih
  | done => exact List.prefix_rfl
  | stays _ _ ih => exact ih
  | follows _ _ _ first rest => exact first.trans rest

private theorem Cascade.of_settling {fuel child : Nat} {stale : List (Nat × Nat)}
    (pulls : ∀ (state : Removal) (parent : Nat) (stale : List (Nat × Nat)),
      state.graph.Traced stale → state.graph.size ≤ fuel →
        Cascade state (.remove parent) (removeWithin fuel state parent))
    (parents : List Nat) (state : Removal)
    (traced : state.graph.Traced (parents.map (fun parent => (parent, child)) ++ stale))
    (gone : state.graph.node? child = none) (small : state.graph.size ≤ fuel) :
    Cascade state (.settle child parents) (parents.foldl (fun state parent =>
      let graph := state.graph.dropChild parent child
      let state := { state with graph }
      if graph.isDeadEnd parent then removeWithin fuel state parent else state) state) := by
  induction parents generalizing state with
  | nil => exact .done
  | cons parent rest ih =>
    have dropped := traced.dropChild gone
    have receded := Recedes.dropChild state.graph parent child
    have smaller := receded.size.trans small
    rw [List.foldl_cons]
    dsimp only
    split
    · next dead =>
      have whole : (state.dropChild parent child).graph.Traced _ := dropped
      obtain ⟨kept, further⟩ := @Traced.removeWithin fuel _ parent _ whole smaller
      refine .follows dead (pulls _ parent _ dropped smaller) ?_
      exact ih _ kept (further.gone _ (receded.gone _ gone)) (further.size.trans smaller)
    · next alive =>
      exact .stays (Bool.eq_false_iff.mpr alive) (ih _ dropped (receded.gone _ gone) smaller)

/-- With a bound of at least the number of live nodes, a removal is a cascade that has ended. -/
theorem cascade_removeWithin (fuel : Nat) {state : Removal} {id : Nat} {stale : List (Nat × Nat)}
    (traced : state.graph.Traced stale) (enough : state.graph.size ≤ fuel) :
    Cascade state (.remove id) (removeWithin fuel state id) := by
  induction fuel generalizing state id stale with
  | zero =>
    have none : state.graph.node? id = none := by
      cases found : state.graph.node? id with
      | none => rfl
      | some node =>
        have inhabited := List.length_pos_of_mem (mem_live_iff.mpr ⟨id, found⟩)
        rw [size] at enough
        omega
    exact .absent none
  | succ fuel ih =>
    rw [removeWithin]
    split
    · next gone => exact .absent gone
    · next node found =>
      obtain rfl : node.id = id := traced.placed id node found
      have member : node ∈ state.graph.live := mem_live_iff.mpr ⟨_, found⟩
      have smaller := traced.size_detach_lt member
      have gone : (state.graph.detach node).node? node.id = none :=
        node?_detach_eq_none_iff.mpr (.inl rfl)
      have small : (state.graph.detach node).size ≤ fuel := by omega
      exact .present found
        (.of_settling (fun _ _ _ => ih) node.parents _ (traced.detach member) gone small)

/-! ## The cone of a node -/

/-- A set of nodes contains the root, and every node with children that are all in the set, unless
it produces a declared output. -/
structure Closes (graph : Graph) (root : Nat) (cone : Set Nat) : Prop where
  root : root ∈ cone
  parents : ∀ node ∈ graph.live, (∃ child ∈ node.children, child ∈ cone) →
    (∀ child ∈ node.children, child ∈ cone) → graph.yieldsOutput node = false → node.id ∈ cone

/-- Every set that contains the root and is closed in this way contains the node. -/
def Doomed (graph : Graph) (root id : Nat) : Prop := ∀ cone, graph.Closes root cone → id ∈ cone

theorem doomed_root (graph : Graph) (root : Nat) : graph.Doomed root root :=
  fun _ closes => closes.root

theorem Doomed.of_children {graph : Graph} {root : Nat} {node : Node} (member : node ∈ graph.live)
    (inhabited : node.children ≠ []) (children : ∀ child ∈ node.children, graph.Doomed root child)
    (undeclared : graph.yieldsOutput node = false) : graph.Doomed root node.id := by
  intro cone closes
  have inside : ∀ child ∈ node.children, child ∈ cone :=
    fun child listed => children child listed cone closes
  obtain ⟨child, listed⟩ := List.exists_mem_of_ne_nil _ inhabited
  exact closes.parents node member ⟨child, listed, inside child listed⟩ inside undeclared

/-! ## What is left in the course of a cascade -/

/-- What is left of a node in a graph from which others have gone: it has lost no child that is
still there. -/
structure Remnant (graph : Graph) (old node : Node) : Prop where
  alike : node.Like old
  parents : node.parents ⊆ old.parents
  children : node.children ⊆ old.children
  lost : ∀ child ∈ old.children, child ∈ node.children ∨ graph.node? child = none

/-- Nodes of the cone have gone, each of them once, and nothing else has changed. -/
structure Eroded (before : Graph) (root : Nat) (state : Removal) : Prop where
  remnants : ∀ id node, state.graph.node? id = some node →
    ∃ old, before.node? id = some old ∧ Remnant state.graph old node
  gone : ∀ id, id ∈ state.removed.map Node.id ↔
    before.isLive id = true ∧ state.graph.node? id = none
  once : (state.removed.map Node.id).Nodup
  doomed : ∀ id ∈ state.removed.map Node.id, before.Doomed root id
  inputs : state.graph.inputs = before.inputs
  outputs : state.graph.outputs = before.outputs
  constants : state.graph.constants = before.constants
  shapes : state.graph.shapes = before.shapes

/-- Except for the exempt nodes, whatever is left without children was without them before, or
produces a declared output. -/
def Drained (before : Graph) (exempt : Nat → Prop) (graph : Graph) : Prop :=
  ∀ id node old, ¬ exempt id → graph.node? id = some node → before.node? id = some old →
    node.children = [] → graph.yieldsOutput node = false → old.children = []

section
variable {before : Graph} {root : Nat} {state : Removal}

theorem Eroded.refl (graph : Graph) (root : Nat) : Eroded graph root ⟨graph, []⟩ where
  remnants := fun _ node found => ⟨node, found, .refl node, List.Subset.refl _,
    List.Subset.refl _, fun _ listed => .inl listed⟩
  gone := by
    intro id
    rw [isLive]
    cases graph.node? id <;> simp
  once := List.nodup_nil
  doomed := fun _ listed => absurd listed List.not_mem_nil
  inputs := rfl
  outputs := rfl
  constants := rfl
  shapes := rfl

/-- Detaching a node takes entries from parent lists and adds none. -/
private theorem parents_of_detach {graph : Graph} {node other : Node} {id : Nat}
    (found : (graph.detach node).node? id = some other) :
    ∃ old, graph.node? id = some old ∧ other.parents ⊆ old.parents := by
  refine List.foldlRecOn (motive := fun next : Graph => ∀ other, next.node? id = some other →
    ∃ old, graph.node? id = some old ∧ other.parents ⊆ old.parents) node.children _ ?_ ?_ other
    found
  · intro other present
    have kept := node?_set_none graph node.id id
    simp only [node?] at kept present ⊢
    rw [kept] at present
    split at present
    · cases present
    · exact ⟨other, present, List.Subset.refl _⟩
  · intro next kept child _ other present
    rw [node?_updateNode] at present
    split at present
    · obtain ⟨between, origin, rfl⟩ := Option.map_eq_some_iff.mp present
      obtain ⟨old, first, fewer⟩ := kept between origin
      exact ⟨old, first, List.Subset.trans List.filter_sublist.subset fewer⟩
    · exact kept other present

/-- What is left of another node loses nothing but the detached node. -/
private theorem Remnant.detach {graph : Graph} {old middle next node : Node} {id : Nat}
    (remnant : Remnant graph old middle) (middleFound : graph.node? id = some middle)
    (found : (graph.detach node).node? id = some next) : Remnant (graph.detach node) old next := by
  obtain ⟨-, between, betweenFound, alike, children⟩ := node?_of_detach found
  obtain rfl := Option.some.inj (betweenFound.symm.trans middleFound)
  obtain ⟨again, againFound, fewer⟩ := parents_of_detach found
  obtain rfl := Option.some.inj (againFound.symm.trans middleFound)
  refine ⟨alike.trans remnant.alike, List.Subset.trans fewer remnant.parents,
    children ▸ remnant.children, fun child listed => ?_⟩
  rcases remnant.lost child listed with kept | lost
  · exact .inl (children ▸ kept)
  · exact .inr (node?_detach_eq_none_iff.mpr (.inr lost))

theorem Eroded.detach (eroded : Eroded before root state) (placed : before.Placed) {id : Nat}
    {node : Node} (found : state.graph.node? id = some node) (doomed : before.Doomed root id) :
    Eroded before root (state.detach node) := by
  obtain ⟨origin, originFound, remnant⟩ := eroded.remnants id node found
  obtain rfl : node.id = id := remnant.alike.id.trans (placed id origin originFound)
  obtain ⟨nodes, same⟩ := detach_eq state.graph node
  have ids : (state.detach node).removed.map Node.id = state.removed.map Node.id ++ [node.id] := by
    rw [Removal.detach, List.map_append, List.map_singleton]
  have present : before.isLive node.id = true := by rw [isLive, originFound, Option.isSome_some]
  have fresh : node.id ∉ state.removed.map Node.id := by
    intro listed
    rw [eroded.gone, found] at listed
    cases listed.2
  refine ⟨?_, ?_, ?_, ?_, ?_, ?_, ?_, ?_⟩
  · intro other next nextFound
    obtain ⟨-, middle, middleFound, -⟩ := node?_of_detach nextFound
    obtain ⟨old, oldFound, earlier⟩ := eroded.remnants other middle middleFound
    exact ⟨old, oldFound, earlier.detach middleFound nextFound⟩
  · intro other
    have absent : (state.detach node).graph.node? other = none ↔
        other = node.id ∨ state.graph.node? other = none := node?_detach_eq_none_iff
    rw [ids, List.mem_append, List.mem_singleton, eroded.gone, absent]
    constructor
    · rintro (⟨alive, lost⟩ | rfl)
      · exact ⟨alive, .inr lost⟩
      · exact ⟨present, .inl rfl⟩
    · rintro ⟨alive, rfl | lost⟩
      · exact .inr rfl
      · exact .inl ⟨alive, lost⟩
  · rw [ids, ← List.concat_eq_append]
    exact List.Nodup.concat fresh eroded.once
  · intro other listed
    rw [ids, List.mem_append, List.mem_singleton] at listed
    rcases listed with earlier | rfl
    · exact eroded.doomed other earlier
    · exact doomed
  all_goals simp only [Removal.detach, same]
  · exact eroded.inputs
  · exact eroded.outputs
  · exact eroded.constants
  · exact eroded.shapes

/-- What is left of a node loses at most the child that is dropped, which is gone. -/
private theorem Remnant.dropChild {graph : Graph} {old middle next : Node} {parent child id : Nat}
    (remnant : Remnant graph old middle) (gone : graph.node? child = none)
    (middleFound : graph.node? id = some middle)
    (found : (graph.dropChild parent child).node? id = some next) :
    Remnant (graph.dropChild parent child) old next := by
  have lost : ∀ other ∈ old.children, other ∈ middle.children ∨
      (graph.dropChild parent child).node? other = none := fun other listed =>
    (remnant.lost other listed).imp_right node?_dropChild_eq_none_iff.mpr
  rw [node?_dropChild, middleFound] at found
  split at found
  · cases found
    refine ⟨remnant.alike, remnant.parents,
      List.Subset.trans List.filter_sublist.subset remnant.children, fun other listed => ?_⟩
    by_cases same : other = child
    · exact .inr (node?_dropChild_eq_none_iff.mpr (same ▸ gone))
    · exact (lost other listed).imp_left fun kept =>
        List.mem_filter.mpr ⟨kept, decide_eq_true same⟩
  · cases found
    exact ⟨remnant.alike, remnant.parents, remnant.children, lost⟩

theorem Eroded.dropChild (eroded : Eroded before root state) (parent : Nat) {child : Nat}
    (gone : child ∈ state.removed.map Node.id) :
    Eroded before root (state.dropChild parent child) := by
  refine ⟨?_, ?_, eroded.once, eroded.doomed, eroded.inputs, eroded.outputs, eroded.constants,
    eroded.shapes⟩
  · intro id next found
    cases middleFound : state.graph.node? id with
    | none =>
      have absent : (state.dropChild parent child).graph.node? id = none :=
        node?_dropChild_eq_none_iff.mpr middleFound
      cases absent.symm.trans found
    | some middle =>
      obtain ⟨old, oldFound, remnant⟩ := eroded.remnants id middle middleFound
      exact ⟨old, oldFound, remnant.dropChild ((eroded.gone child).mp gone).2 middleFound found⟩
  · intro id
    exact (eroded.gone id).trans (and_congr_right' node?_dropChild_eq_none_iff.symm)

theorem Eroded.yieldsOutput_eq (eroded : Eroded before root state) {old node : Node}
    (alike : node.Like old) : state.graph.yieldsOutput node = before.yieldsOutput old := by
  have declared : state.graph.isOutput = before.isOutput := by
    funext tensor
    rw [isOutput, isOutput, edgeNamed?, edgeNamed?, eroded.outputs]
  rw [yieldsOutput, yieldsOutput, declared, alike.outputs]

/-- A dead end of the graph at hand is the remnant of a node with children that are all gone. -/
theorem Eroded.doomed_of_isDeadEnd (eroded : Eroded before root state) (traced : before.Traced [])
    {parent child : Nat} {childNode : Node} (childFound : before.node? child = some childNode)
    (listed : parent ∈ childNode.parents) (dead : state.graph.isDeadEnd parent = true) :
    before.Doomed root parent := by
  rw [isDeadEnd] at dead
  split at dead
  · next node found =>
    obtain ⟨old, oldFound, remnant⟩ := eroded.remnants parent node found
    obtain rfl : old.id = parent := traced.placed parent old oldFound
    have oldMember : old ∈ before.live := mem_live_iff.mpr ⟨_, oldFound⟩
    rw [Bool.and_eq_true, List.isEmpty_iff, Bool.not_eq_true'] at dead
    obtain ⟨childless, undeclared⟩ := dead
    refine .of_children oldMember ?_ ?_ ?_
    · have related := (traced.mem_children_iff oldMember
        (mem_live_iff.mpr ⟨child, childFound⟩)).mpr listed
      exact List.ne_nil_of_mem related
    · intro other otherListed
      have alive := traced.mentionsLive.children old oldMember other otherListed
      rcases remnant.lost other otherListed with kept | lost
      · rw [childless] at kept
        cases kept
      · exact eroded.doomed other ((eroded.gone other).mpr ⟨alive, lost⟩)
    · exact (eroded.yieldsOutput_eq remnant.alike).symm.trans undeclared
  · cases dead

end

/-! ## Nodes that have lost all their children -/

theorem Drained.detach {before graph : Graph} {node : Node}
    (drained : Drained before (· = node.id) graph) :
    Drained before (fun _ => False) (graph.detach node) := by
  intro id next old _ found oldFound childless undeclared
  obtain ⟨different, middle, middleFound, alike, children⟩ := node?_of_detach found
  obtain ⟨nodes, same⟩ := detach_eq graph node
  refine drained id middle old different middleFound oldFound (children ▸ childless) ?_
  rw [same, yieldsOutput, alike.outputs] at undeclared
  exact undeclared

/-- Dropping a child may leave one node without children, the parent. -/
theorem Drained.dropChild {before graph : Graph}
    (drained : Drained before (fun _ => False) graph) (parent child : Nat) :
    Drained before (· = parent) (graph.dropChild parent child) := by
  intro id next old different found oldFound childless undeclared
  rw [node?_dropChild, if_neg different] at found
  exact drained id next old not_false found oldFound childless undeclared

/-- A parent that is not a dead end is no exception. -/
theorem Drained.of_alive {before graph : Graph} {parent : Nat}
    (drained : Drained before (· = parent) graph) (alive : graph.isDeadEnd parent = false) :
    Drained before (fun _ => False) graph := by
  intro id node old _ found oldFound childless undeclared
  by_cases same : id = parent
  · subst same
    rw [isDeadEnd, found] at alive
    simp only [childless, undeclared, List.isEmpty_nil, Bool.not_false, Bool.and_self] at alive
    cases alive
  · exact drained id node old same found oldFound childless undeclared

/-! ## The run of a cascade -/

namespace Errand

/-- The node that an errand is about to remove may have lost its children already. -/
def exempts : Errand → Nat → Prop
  | remove id => (· = id)
  | settle _ _ => fun _ => False

/-- What is to be removed is in the cone, and the parents that are told are those of a child that
is gone. -/
def Due (before : Graph) (root : Nat) (state : Removal) : Errand → Prop
  | remove id => before.Doomed root id
  | settle child parents => child ∈ state.removed.map Node.id ∧
      ∃ node, before.node? child = some node ∧ parents ⊆ node.parents

end Errand

/-- A cascade takes away nodes of the cone only, and goes on as long as a node has lost all its
children. -/
theorem Cascade.eroded {before : Graph} (traced : before.Traced []) {root : Nat}
    {state final : Removal} {errand : Errand} (run : Cascade state errand final)
    (eroded : Eroded before root state) (due : errand.Due before root state)
    (drained : Drained before errand.exempts state.graph) :
    Eroded before root final ∧ Drained before (fun _ => False) final.graph := by
  induction run with
  | @absent state id gone =>
    refine ⟨eroded, fun other node old _ found => ?_⟩
    have different : ¬ Errand.exempts (.remove id) other := by
      rintro rfl
      rw [gone] at found
      cases found
    exact drained other node old different found
  | @present state final id node found _ ih =>
    obtain ⟨old, oldFound, remnant⟩ := eroded.remnants id node found
    obtain rfl : node.id = id := remnant.alike.id.trans (traced.placed id old oldFound)
    have removed : node.id ∈ (state.detach node).removed.map Node.id :=
      List.mem_map_of_mem (List.mem_append_right _ (List.mem_singleton_self node))
    exact ih (eroded.detach traced.placed found due)
      ⟨removed, old, oldFound, remnant.parents⟩ (Drained.detach drained)
  | done => exact ⟨eroded, drained⟩
  | @stays state final child parent parents alive _ ih =>
    obtain ⟨gone, node, found, fewer⟩ := due
    exact ih (eroded.dropChild parent gone)
      ⟨gone, node, found, fun other listed => fewer (List.mem_cons_of_mem parent listed)⟩
      ((Drained.dropChild drained parent child).of_alive alive)
  | @follows state middle final child parent parents dead first rest ihFirst ihRest =>
    obtain ⟨gone, node, found, fewer⟩ := due
    have dropped := eroded.dropChild parent gone
    have doomed := dropped.doomed_of_isDeadEnd traced found (fewer List.mem_cons_self) dead
    obtain ⟨between, calm⟩ := ihFirst dropped doomed (Drained.dropChild drained parent child)
    have stillGone : child ∈ middle.removed.map Node.id :=
      (first.removed_prefix.map Node.id).subset gone
    exact ihRest between
      ⟨stillGone, node, found, fun other listed => fewer (List.mem_cons_of_mem parent listed)⟩ calm

/-! ## The whole removal -/

/-- The cascade has ended, and it has removed exactly the least closed set, each node of it once.
All other nodes and everything else in the graph are as before. -/
structure RemovesCone (before : Graph) (root : Nat) (after : Removal) : Prop where
  ended : Cascade ⟨before, []⟩ (.remove root) after
  cone : IsLeast {cone | before.Closes root cone} {id | id ∈ after.removed.map Node.id}
  once : (after.removed.map Node.id).Nodup
  gone : ∀ id ∈ after.removed.map Node.id, after.graph.node? id = none
  kept : ∀ id ∉ after.removed.map Node.id,
    (after.graph.node? id).map Node.core = (before.node? id).map Node.core
  inputs : after.graph.inputs = before.inputs
  outputs : after.graph.outputs = before.outputs
  constants : after.graph.constants = before.constants
  shapes : after.graph.shapes = before.shapes

/-- When no index mentions a node that is gone, a node that has lost all its children has none. -/
theorem Cascade.root_mem {state final : Removal} {node : Node}
    (run : Cascade state (.remove node.id) final) (found : state.graph.node? node.id = some node) :
    node ∈ final.removed := by
  generalize same : Errand.remove node.id = errand at run
  cases run with
  | absent gone =>
    cases same
    rw [found] at gone
    cases gone
  | present present rest =>
    cases same
    obtain rfl := Option.some.inj (found.symm.trans present)
    exact rest.removed_prefix.subset (List.mem_append_right _ (List.mem_singleton_self node))
  | done => cases same
  | stays => cases same
  | follows => cases same

private theorem Eroded.closes {before : Graph} {root : Nat} {after : Removal}
    (eroded : Eroded before root after) (placed : before.Placed)
    (calm : Drained before (fun _ => False) after.graph) (traced : after.graph.Traced [])
    (removed : root ∈ after.removed.map Node.id) :
    before.Closes root {id | id ∈ after.removed.map Node.id} where
  root := removed
  parents := by
    rintro node member ⟨child, childListed, -⟩ children undeclared
    have found := placed.node?_of_mem member
    have present : before.isLive node.id = true := by rw [isLive, found, Option.isSome_some]
    refine (eroded.gone node.id).mpr ⟨present, ?_⟩
    cases remains : after.graph.node? node.id with
    | none => rfl
    | some next =>
      obtain ⟨old, oldFound, remnant⟩ := eroded.remnants node.id next remains
      obtain rfl := Option.some.inj (found.symm.trans oldFound)
      have childless : next.children = [] := by
        refine List.eq_nil_iff_forall_not_mem.mpr fun other listed => ?_
        have alive := traced.mentionsLive.children next (mem_live_iff.mpr ⟨_, remains⟩) other listed
        have lost := ((eroded.gone other).mp (children other (remnant.children listed))).2
        rw [isLive, lost] at alive
        cases alive
      have plain := (eroded.yieldsOutput_eq remnant.alike).trans undeclared
      rw [calm node.id next node not_false remains found childless plain] at childListed
      cases childListed

theorem Traced.removesCone {graph : Graph} (traced : graph.Traced []) {id : Nat}
    (live : graph.isLive id = true) : RemovesCone graph id (graph.remove id) := by
  have whole : (⟨graph, []⟩ : Removal).graph.Traced [] := traced
  have run : Cascade ⟨graph, []⟩ (.remove id) (graph.remove id) :=
    cascade_removeWithin graph.size whole le_rfl
  have intact : Drained graph (Errand.remove id).exempts graph := by
    intro other node old _ found oldFound childless _
    obtain rfl := Option.some.inj (oldFound.symm.trans found)
    exact childless
  obtain ⟨eroded, calm⟩ :=
    run.eroded traced (.refl graph id) (doomed_root graph id) intact
  obtain ⟨root, found⟩ := Option.isSome_iff_exists.mp live
  have same : root.id = id := traced.placed id root found
  have removed : id ∈ (graph.remove id).removed.map Node.id := by
    subst same
    exact List.mem_map_of_mem (run.root_mem found)
  refine ⟨run, ⟨?_, ?_⟩, eroded.once, fun other listed => ((eroded.gone other).mp listed).2, ?_,
    eroded.inputs, eroded.outputs, eroded.constants, eroded.shapes⟩
  · exact eroded.closes traced.placed calm (traced.remove id) removed
  · exact fun cone closes other listed => eroded.doomed other listed cone closes
  · intro other unlisted
    cases found : (graph.remove id).graph.node? other with
    | some node =>
      obtain ⟨old, oldFound, remnant⟩ := eroded.remnants other node found
      rw [oldFound, Option.map_some, Option.map_some]
      exact congrArg some remnant.alike
    | none =>
      have absent : graph.node? other = none := by
        cases present : graph.node? other with
        | none => rfl
        | some node =>
          have alive : graph.isLive other = true := by rw [isLive, present, Option.isSome_some]
          exact absurd ((eroded.gone other).mpr ⟨alive, found⟩) unlisted
      rw [absent]

/-- However a built graph has been edited, removing a live node ends, and takes away the least set
of nodes that contains it and every live node that has children, all of them in the set, and
produces no declared output. -/
theorem remove_removesCone {spec : GraphSpec} {start : Graph} (built : build spec = .ok start)
    (edits : List Edit) {id : Nat} (live : (start.edited edits).isLive id = true) :
    RemovesCone (start.edited edits) id ((start.edited edits).remove id) :=
  ((traced_of_build built).edited edits).removesCone live

/-- A diamond, beside a node that also reads itself, a node that produces a declared output, and
one that has a child elsewhere. All of them feed the node where the diamond ends. -/
def diamond : GraphSpec where
  name := "diamond"
  nodes :=
    [ ⟨"top", "Relu", ["x"], ["a"], .empty⟩,
      ⟨"left", "Relu", ["a"], ["b"], .empty⟩,
      ⟨"right", "Relu", ["a"], ["c"], .empty⟩,
      ⟨"spin", "Add", ["x", "s"], ["s"], .empty⟩,
      ⟨"shown", "Relu", ["x"], ["y"], .empty⟩,
      ⟨"shared", "Relu", ["x"], ["w"], .empty⟩,
      ⟨"end", "Sum", ["b", "c", "s", "y", "w", "b"], ["d"], .empty⟩,
      ⟨"beside", "Relu", ["w"], ["v"], .empty⟩ ]
  inputs := [⟨"x", 1, some [2]⟩]
  outputs := [⟨"y", 1, some [2]⟩]
  initializers := .empty
  values := []

/-- The graph of the diamond. -/
def diamondGraph : Graph := (build diamond).toOption.get rfl

/-- The whole diamond goes, its top once both sides are gone, and nothing else does. -/
theorem remove_removesCone_diamond :
    diamondGraph.isLive 6 = true ∧
      (diamondGraph.remove 6).removed.map Node.name = ["end", "left", "right", "top"] ∧
        RemovesCone diamondGraph 6 (diamondGraph.remove 6) := by
  have built : build diamond = .ok diamondGraph := rfl
  have live : diamondGraph.isLive 6 = true := by decide +kernel
  exact ⟨live, by decide +kernel, remove_removesCone built [] live⟩

end StaticNet.Graph
