import StaticNet.Graph.Build
import StaticNet.Proofs.Dict
import StaticNet.Proofs.Graph.Index
import StaticNet.Proofs.Outcome

/-! # Graphs whose indices miss nothing

The stored indices of a graph may list too much, but they miss neither a reader of a tensor nor a
child of a node. Computing the indices anew establishes this, so it holds of every graph that is
built from a description; there, moreover, no tensor has two producers.
-/

namespace StaticNet.Graph

/-- The consumer index lists every live node under each tensor that it reads. -/
def ReadersListed (graph : Graph) : Prop :=
  ∀ node ∈ graph.live, ∀ tensor ∈ node.reads, node.id ∈ (graph.consumers.get? tensor).getD []

/-- Every live node that reads what another one writes is among the children of that node. -/
def ChildrenListed (graph : Graph) : Prop :=
  ∀ parent ∈ graph.live, ∀ child ∈ graph.live, ∀ tensor ∈ parent.writes, tensor ∈ child.reads →
    child.id ∈ parent.children

theorem ReadersListed.mem_consumersOf {graph : Graph} (listed : graph.ReadersListed)
    (placed : graph.Placed) {node : Node} (member : node ∈ graph.live) {tensor : String}
    (read : tensor ∈ node.reads) : node ∈ graph.consumersOf tensor :=
  List.mem_filterMap.mpr ⟨node.id, listed node member tensor read, placed.node?_of_mem member⟩

/-! ## Indices computed anew -/

theorem placed_reindex {graph : Graph} (placed : graph.Placed) : graph.reindex.Placed := by
  intro id node found
  obtain ⟨before, present, alike⟩ := node?_reindex found
  exact alike.id.trans (placed id before present)

theorem readersListed_reindex (graph : Graph) : graph.reindex.ReadersListed := by
  intro node member tensor read
  obtain ⟨before, present, alike⟩ := mem_live_reindex member
  have listed := (mem_consumerIndex_iff graph.live tensor node.id).mpr
    ⟨before, present, alike.id, alike.reads ▸ read⟩
  rwa [Std.TreeMap.getD_eq_getD_getElem?] at listed

/-- No node is listed as a reader of the absent tensor. -/
theorem unlisted_reindex (graph : Graph) : (graph.reindex.consumers.get? "").getD [] = [] := by
  refine List.eq_nil_iff_forall_not_mem.mpr fun id listed => ?_
  rw [Std.TreeMap.get?_eq_getElem?, ← Std.TreeMap.getD_eq_getD_getElem?] at listed
  obtain ⟨node, -, -, read⟩ := (mem_consumerIndex_iff graph.live "" id).mp listed
  exact of_decide_eq_true (List.mem_filter.mp read).2 rfl

theorem children_reindex {graph : Graph} {node : Node} (member : node ∈ graph.reindex.live) :
    node.children = (childIndex (producerIndex graph.live) graph.live).getD node.id [] := by
  obtain ⟨id, found⟩ := mem_live_iff.mp member
  simp only [reindex, node?, List.getElem?_map, Option.join_eq_some_iff,
    Option.map_eq_some_iff] at found
  obtain ⟨slot, -, before, -, rfl⟩ := found
  rfl

theorem childrenListed_reindex {graph : Graph} (agree : WritersAgree graph.live) :
    graph.reindex.ChildrenListed := by
  intro parent parentMember child childMember tensor written read
  obtain ⟨writer, writerMember, writerLike⟩ := mem_live_reindex parentMember
  obtain ⟨reader, readerMember, readerLike⟩ := mem_live_reindex childMember
  have produced := (get?_producerIndex_iff agree tensor parent.id).mpr
    ⟨writer, writerMember, writerLike.id.symm, writerLike.writes ▸ written⟩
  rw [children_reindex parentMember, mem_childIndex_iff]
  exact ⟨reader, readerMember, readerLike.id,
    (mem_parentIds_iff _ reader parent.id).mpr ⟨tensor, readerLike.reads ▸ read, produced⟩⟩

theorem writersAgree_reindex {graph : Graph} (agree : WritersAgree graph.live) :
    WritersAgree graph.reindex.live := by
  intro first firstMember second secondMember tensor firstWrites secondWrites
  obtain ⟨one, oneMember, oneLike⟩ := mem_live_reindex firstMember
  obtain ⟨other, otherMember, otherLike⟩ := mem_live_reindex secondMember
  have same := agree one oneMember other otherMember tensor
    (oneLike.writes ▸ firstWrites) (otherLike.writes ▸ secondWrites)
  exact oneLike.id.trans (same.trans otherLike.id.symm)

/-! ## Graphs built from descriptions -/

/-- Outputs can be claimed when they have no owner yet, and then they have one. -/
private theorem claimOutputs_spec {name : String} {outputs : List String}
    {owners claimed : Dict String} (done : claimOutputs name owners outputs = .ok claimed) :
    (∀ tensor ∈ outputs, tensor ≠ "" → owners.get? tensor = none ∧ claimed.get? tensor ≠ none) ∧
      ∀ tensor, owners.get? tensor ≠ none → claimed.get? tensor ≠ none := by
  induction outputs generalizing owners with
  | nil =>
    cases done
    exact ⟨by simp, fun _ owned => owned⟩
  | cons first rest ih =>
    rw [claimOutputs] at done
    split at done
    · next absent =>
      obtain ⟨fresh, kept⟩ := ih done
      exact ⟨List.forall_mem_cons.mpr ⟨fun present => absurd absent present, fresh⟩, kept⟩
    · split at done
      · cases done
      · next unowned =>
        obtain ⟨fresh, kept⟩ := ih done
        have firstClaimed : claimed.get? first ≠ none := kept first (by simp)
        refine ⟨List.forall_mem_cons.mpr ⟨fun _ => ⟨unowned, firstClaimed⟩, ?_⟩, ?_⟩
        · intro tensor member present
          obtain ⟨unclaimed, owned⟩ := fresh tensor member present
          rw [Dict.get?_insert] at unclaimed
          split at unclaimed
          · cases unclaimed
          · exact ⟨unclaimed, owned⟩
        · intro tensor owned
          apply kept
          rw [Dict.get?_insert]
          split
          · exact Option.some_ne_none _
          · exact owned

/-- Claimed outputs are distinct, since each of them has an owner afterwards. -/
private theorem nodup_of_claimOutputs {name : String} {outputs : List String}
    {owners claimed : Dict String} (done : claimOutputs name owners outputs = .ok claimed) :
    (outputs.filter fun tensor => tensor ≠ "").Nodup := by
  induction outputs generalizing owners with
  | nil => exact List.nodup_nil
  | cons first rest ih =>
    rw [claimOutputs] at done
    split at done
    · next absent =>
      rw [List.filter_cons_of_neg (by simp [absent])]
      exact ih done
    · next present =>
      split at done
      · cases done
      · rw [List.filter_cons_of_pos (by simp [present]), List.nodup_cons]
        refine ⟨fun again => ?_, ih done⟩
        obtain ⟨member, -⟩ := List.mem_filter.mp again
        have unowned := ((claimOutputs_spec done).1 first member present).1
        rw [Dict.get?_insert, if_pos rfl] at unowned
        cases unowned

theorem nodup_writes_of_buildNodes {constants : Dict Tensor} {specs : List NodeSpec} {id : Nat}
    {owners : Dict String} {nodes : List Node}
    (built : buildNodes constants id owners specs = .ok nodes) :
    ∀ node ∈ nodes, node.writes.Nodup := by
  induction specs generalizing id owners nodes with
  | nil =>
    cases built
    simp
  | cons spec rest ih =>
    rw [buildNodes] at built
    split at built
    · cases built
    · obtain ⟨claimed, claim, others⟩ := Outcome.bind_eq_ok_iff.mp built
      obtain ⟨tail, tailBuilt, same⟩ := Outcome.bind_eq_ok_iff.mp others
      cases same
      exact List.forall_mem_cons.mpr ⟨nodup_of_claimOutputs claim, ih tailBuilt⟩

/-- The nodes of a description are numbered in order. -/
theorem buildNodes_eq {constants : Dict Tensor} {specs : List NodeSpec} {id : Nat}
    {owners : Dict String} {nodes : List Node}
    (built : buildNodes constants id owners specs = .ok nodes) :
    nodes = specs.mapIdx fun index spec => buildNode constants (id + index) spec := by
  induction specs generalizing id owners nodes with
  | nil =>
    cases built
    rfl
  | cons spec rest ih =>
    rw [buildNodes] at built
    split at built
    · cases built
    · obtain ⟨claimed, claim, others⟩ := Outcome.bind_eq_ok_iff.mp built
      obtain ⟨tail, tailBuilt, same⟩ := Outcome.bind_eq_ok_iff.mp others
      cases same
      have position : ∀ index, id + 1 + index = id + (index + 1) := fun index => by omega
      rw [ih tailBuilt, List.mapIdx_cons]
      simp only [position, Nat.add_zero]

theorem id_of_buildNodes {constants : Dict Tensor} {specs : List NodeSpec}
    {owners : Dict String} {nodes : List Node}
    (built : buildNodes constants 0 owners specs = .ok nodes) {index : Nat} {node : Node}
    (found : nodes[index]? = some node) : node.id = index := by
  rw [buildNodes_eq built, List.getElem?_mapIdx] at found
  obtain ⟨spec, -, rfl⟩ := Option.map_eq_some_iff.mp found
  exact Nat.zero_add index

/-- The nodes of a description write different tensors. -/
theorem buildNodes_spec {constants : Dict Tensor} {specs : List NodeSpec} {id : Nat}
    {owners : Dict String} {nodes : List Node}
    (built : buildNodes constants id owners specs = .ok nodes) :
    WritersAgree nodes ∧ ∀ node ∈ nodes, ∀ tensor ∈ node.writes, owners.get? tensor = none := by
  induction specs generalizing id owners nodes with
  | nil =>
    cases built
    simp [WritersAgree]
  | cons spec rest ih =>
    rw [buildNodes] at built
    split at built
    · cases built
    · obtain ⟨claimed, claim, others⟩ := Outcome.bind_eq_ok_iff.mp built
      obtain ⟨tail, tailBuilt, same⟩ := Outcome.bind_eq_ok_iff.mp others
      cases same
      obtain ⟨agree, unowned⟩ := ih tailBuilt
      obtain ⟨fresh, kept⟩ := claimOutputs_spec claim
      have headFresh : ∀ tensor ∈ (buildNode constants id spec).writes,
          owners.get? tensor = none ∧ claimed.get? tensor ≠ none := by
        intro tensor written
        obtain ⟨member, present⟩ := List.mem_filter.mp written
        exact fresh tensor member (of_decide_eq_true present)
      refine ⟨?_, ?_⟩
      · intro first firstMember second secondMember tensor firstWrites secondWrites
        rcases List.mem_cons.mp firstMember with rfl | firstMember <;>
          rcases List.mem_cons.mp secondMember with rfl | secondMember
        · rfl
        · exact absurd (unowned second secondMember tensor secondWrites)
            (headFresh tensor firstWrites).2
        · exact absurd (unowned first firstMember tensor firstWrites)
            (headFresh tensor secondWrites).2
        · exact agree first firstMember second secondMember tensor firstWrites secondWrites
      · refine List.forall_mem_cons.mpr ⟨fun tensor written => (headFresh tensor written).1, ?_⟩
        intro node member tensor written
        exact Decidable.byContradiction fun owned =>
          kept tensor owned (unowned node member tensor written)

private theorem get?_foldl_attach (constants : Dict Tensor) (inputs : List String)
    (attached : Dict Tensor) (tensor : String) :
    (inputs.foldl (fun attached tensor =>
      match constants.get? tensor with
      | some value => attached.insert tensor value
      | none => attached) attached).get? tensor =
      if tensor ∈ inputs then (constants.get? tensor).or (attached.get? tensor)
      else attached.get? tensor := by
  induction inputs generalizing attached with
  | nil => rfl
  | cons first rest ih =>
    rw [List.foldl_cons, ih]
    by_cases same : tensor = first
    · subst same
      cases known : constants.get? tensor <;> simp
    · have apart : tensor ∈ first :: rest ↔ tensor ∈ rest := by simp [same]
      simp only [apart]
      cases constants.get? first <;> simp [same]

/-- What is attached is what is constant among the inputs. -/
theorem get?_attachedConstants (constants : Dict Tensor) (inputs : List String) (tensor : String) :
    (attachedConstants constants inputs).get? tensor =
      if tensor ∈ inputs then constants.get? tensor else none := by
  have attached := get?_foldl_attach constants inputs .empty tensor
  rw [Dict.get?_empty, Option.or_none] at attached
  exact attached

private theorem nodup_keys_attachedConstants {constants : Dict Tensor} (inputs : List String)
    (attached : Dict Tensor) (distinct : attached.keys.Nodup) :
    (inputs.foldl (fun attached tensor =>
      match constants.get? tensor with
      | some value => attached.insert tensor value
      | none => attached) attached).keys.Nodup := by
  induction inputs generalizing attached with
  | nil => exact distinct
  | cons first rest ih =>
    refine ih _ ?_
    dsimp only
    split
    · exact Dict.nodup_keys_insert attached _ _ distinct
    · exact distinct

/-- A node has the operator, the inputs and the outputs of its description. -/
structure Describes (origin : NodeSpec) (node : Node) : Prop where
  op : node.op = origin.op
  inputs : node.inputs = origin.inputs
  outputs : node.outputs = origin.outputs

/-- What holds of a graph that has just been built. -/
structure Built (spec : GraphSpec) (graph : Graph) : Prop where
  placed : graph.Placed
  readers : graph.ReadersListed
  children : graph.ChildrenListed
  writers : WritersAgree graph.live
  constants : graph.constants = spec.initializers
  outputs : graph.outputs = spec.outputs
  inputs : ∀ tensor, graph.isInput tensor = true → graph.constants.get? tensor = none
  attached : ∀ node ∈ graph.live, ∀ tensor value, node.constants.get? tensor = some value →
    graph.constants.get? tensor = some value ∧ tensor ∈ node.inputs
  distinct : ∀ node ∈ graph.live, node.constants.keys.Nodup
  absent : (graph.consumers.get? "").getD [] = []
  origins : ∀ node ∈ graph.live, ∃ origin ∈ spec.nodes, Describes origin node
  nodes : ∀ origin ∈ spec.nodes, ∃ node ∈ graph.live, Describes origin node

/-- Apart from its neighbours, a live node is as it was built. -/
private theorem exists_like_buildNode {constants : Dict Tensor} {specs : List NodeSpec}
    {first : Nat} {nodes : List Node}
    (numbered : nodes = specs.mapIdx fun index spec => buildNode constants (first + index) spec)
    {graph : Graph} (listed : graph.nodes = nodes.map some) {node : Node}
    (member : node ∈ graph.reindex.live) :
    ∃ id, ∃ origin ∈ specs, node.Like (buildNode constants id origin) := by
  obtain ⟨before, present, alike⟩ := mem_live_reindex member
  have live : before ∈ nodes := by simpa [live, listed] using present
  rw [numbered] at live
  obtain ⟨index, inside, rfl⟩ := List.mem_mapIdx.mp live
  exact ⟨first + index, specs[index], List.getElem_mem inside, alike⟩

private theorem Describes.of_like {constants : Dict Tensor} {id : Nat} {origin : NodeSpec}
    {node : Node} (alike : node.Like (buildNode constants id origin)) : Describes origin node :=
  ⟨alike.op, alike.inputs, alike.outputs⟩

private theorem exists_described {constants : Dict Tensor} {specs : List NodeSpec}
    {first : Nat} {nodes : List Node}
    (numbered : nodes = specs.mapIdx fun index spec => buildNode constants (first + index) spec)
    {graph : Graph} (listed : graph.nodes = nodes.map some) {origin : NodeSpec}
    (member : origin ∈ specs) : ∃ node ∈ graph.reindex.live, Describes origin node := by
  obtain ⟨index, inside, rfl⟩ := List.mem_iff_getElem.mp member
  have built : buildNode constants (first + index) specs[index] ∈ nodes :=
    numbered ▸ List.mem_mapIdx.mpr ⟨index, inside, rfl⟩
  have present : buildNode constants (first + index) specs[index] ∈ graph.live := by
    simpa [live, listed] using built
  obtain ⟨node, live, alike⟩ := of_mem_live_reindex present
  exact ⟨node, live, .of_like alike⟩

theorem built_of_build {spec : GraphSpec} {graph : Graph} (built : build spec = .ok graph) :
    Built spec graph := by
  obtain ⟨nodes, nodesBuilt, same⟩ := Outcome.bind_eq_ok_iff.mp built
  cases same
  obtain ⟨agree, -⟩ := buildNodes_spec nodesBuilt
  have live : (nodes.map some).filterMap id = nodes := by simp
  have numbered := buildNodes_eq nodesBuilt
  have agreeLive : WritersAgree ((nodes.map some).filterMap id) := live.symm ▸ agree
  refine ⟨placed_reindex ?_, readersListed_reindex _, childrenListed_reindex agreeLive,
    writersAgree_reindex agreeLive, rfl, rfl, ?_, ?_, ?_, unlisted_reindex _, ?_, ?_⟩
  · intro id node found
    simp only [node?, List.getElem?_map, Option.join_eq_some_iff, Option.map_eq_some_iff,
      Option.some.injEq, exists_eq_right] at found
    exact id_of_buildNodes nodesBuilt found
  · intro tensor isInput
    obtain ⟨edge, found⟩ := Option.isSome_iff_exists.mp isInput
    obtain ⟨name, listed⟩ := List.find?_eq_some_iff_append.mp found
    obtain ⟨before, after, split, -⟩ := listed
    have member : edge ∈ spec.inputs.filter fun edge => !spec.initializers.contains edge.id :=
      List.mem_of_find?_eq_some found
    have unknown := (List.mem_filter.mp member).2
    rw [of_decide_eq_true name, Bool.not_eq_true', Dict.contains, Option.isSome_eq_false_iff,
      Option.isNone_iff_eq_none] at unknown
    exact unknown
  · intro node member tensor value found
    obtain ⟨id, origin, -, alike⟩ := exists_like_buildNode numbered rfl member
    rw [alike.constants] at found
    rw [alike.inputs]
    have held := (get?_attachedConstants spec.initializers origin.inputs tensor).symm.trans found
    split at held
    · next read => exact ⟨held, read⟩
    · cases held
  · intro node member
    obtain ⟨id, origin, -, alike⟩ := exists_like_buildNode numbered rfl member
    rw [alike.constants]
    exact nodup_keys_attachedConstants _ _ List.nodup_nil
  · intro node member
    obtain ⟨id, origin, present, alike⟩ := exists_like_buildNode numbered rfl member
    exact ⟨origin, present, .of_like alike⟩
  · intro origin present
    exact exists_described numbered rfl present

/-- What a node of a graph that has just been built has attached. -/
theorem constants_of_build {spec : GraphSpec} {graph : Graph} (built : build spec = .ok graph)
    {node : Node} (member : node ∈ graph.live) :
    node.constants = attachedConstants graph.constants node.inputs := by
  obtain ⟨nodes, nodesBuilt, same⟩ := Outcome.bind_eq_ok_iff.mp built
  cases same
  obtain ⟨id, origin, -, alike⟩ := exists_like_buildNode (buildNodes_eq nodesBuilt) rfl member
  rw [alike.constants, alike.inputs]
  rfl

end StaticNet.Graph
