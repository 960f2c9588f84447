import StaticNet.Proofs.Propagation.Stability

/-! # One pass over ordered nodes

When no node reads what it or a later node writes, the nodes that a visit would queue are still in
the queue. The queue is then at all times what is left of the declaration order, and a run visits
every live node once, in that order.
-/

namespace StaticNet

namespace Propagator

namespace Progress

/-- The same progress with another queue. -/
def requeue (progress : Progress) (queue : List Nat) : Progress := { progress with queue }

@[simp] theorem states_requeue (progress : Progress) (queue : List Nat) :
    (progress.requeue queue).states = progress.states := rfl

@[simp] theorem queue_requeue (progress : Progress) (queue : List Nat) :
    (progress.requeue queue).queue = queue := rfl

@[simp] theorem unhandled_requeue (progress : Progress) (queue : List Nat) :
    (progress.requeue queue).unhandled = progress.unhandled := rfl

end Progress

variable {propagator : Propagator} {graph : Graph}

/-- No node reads what it or a later node writes. -/
structure InOrder (nodes : List Node) : Prop where
  itself : ∀ node ∈ nodes, ∀ tensor ∈ node.writes, tensor ∉ node.reads
  later : nodes.Pairwise fun node later => ∀ tensor ∈ later.writes, tensor ∉ node.reads

/-- Visit nodes in turn, each of them once. What the visits queue is left alone. -/
def pass (propagator : Propagator) (graph : Graph) (nodes : List Node) (progress : Progress) :
    ExceptT PropagationError Logged Progress :=
  nodes.foldlM (fun progress node => propagator.visit graph node progress) progress

/-! ## The queue and the rest of the progress -/

/-- Whether what has been found out is what is recorded already. -/
def isRecorded (previous : Option Knowledge) (next : Knowledge) : Bool :=
  match previous with
  | some previous => previous.agrees next
  | none => !next.isKnown

theorem record_eq (progress : Progress) (tensor : String) (next : Knowledge) :
    record graph progress tensor next =
      if tensor = "" || isRecorded (progress.states.get? tensor) next then progress
      else { progress with
        states := progress.states.insert tensor next
        queue := enqueue progress.queue ((graph.consumersOf tensor).map Node.id) } := rfl

/-- The queue has no part in what is recorded. -/
theorem requeue_record (progress : Progress) (tensor : String) (next : Knowledge)
    (queue rest : List Nat) :
    (record graph (progress.requeue queue) tensor next).requeue rest =
      (record graph progress tensor next).requeue rest := by
  rw [record_eq, record_eq, Progress.states_requeue]
  by_cases unchanged : (decide (tensor = "") ||
    isRecorded (progress.states.get? tensor) next) = true
  · rw [if_pos unchanged, if_pos unchanged]
    rfl
  · rw [if_neg unchanged, if_neg unchanged]
    rfl

theorem requeue_recordAll (node : Node) (results : List Knowledge) (progress : Progress)
    (queue rest : List Nat) :
    (recordAll graph node results (progress.requeue queue)).requeue rest =
      (recordAll graph node results progress).requeue rest := by
  rw [recordAll, recordAll]
  generalize node.outputs.zipIdx = outputs
  induction outputs generalizing progress queue with
  | nil => rfl
  | cons output outputs ih =>
    rw [List.foldl_cons, List.foldl_cons, ← ih (record graph progress _ _) [],
      ← requeue_record progress _ _ queue [], ih]

theorem enqueue_eq_self {queue ids : List Nat} (queued : ∀ id ∈ ids, id ∈ queue) :
    enqueue queue ids = queue := by
  rw [enqueue]
  induction ids with
  | nil => rfl
  | cons id ids ih =>
    rw [List.foldl_cons, if_pos (List.contains_iff_mem.mpr (queued id List.mem_cons_self))]
    exact ih fun other listed => queued other (List.mem_cons_of_mem id listed)

/-- Every reader of what the node writes is queued already. -/
def Covered (graph : Graph) (node : Node) (queue : List Nat) : Prop :=
  ∀ tensor ∈ node.writes, ∀ consumer ∈ graph.consumersOf tensor, consumer.id ∈ queue

theorem queue_recordAll {node : Node} {progress : Progress}
    (covered : Covered graph node progress.queue) (results : List Knowledge) :
    (recordAll graph node results progress).queue = progress.queue := by
  rw [recordAll]
  refine List.foldlRecOn (motive := fun next : Progress => next.queue = progress.queue) _ _ rfl ?_
  intro next same output listed
  by_cases absent : output.1 = ""
  · rw [absent, record_absent, same]
  · have written : output.1 ∈ node.writes := Node.mem_writes_iff.mpr
      ⟨List.mem_of_getElem? (List.mem_zipIdx_iff_getElem?.mp listed), absent⟩
    rcases record_cases graph next absent (results.getD output.2 .unknown) with
      ⟨unchanged, -⟩ | changed
    · rw [unchanged, same]
    · rw [changed]
      dsimp only
      rw [same]
      refine enqueue_eq_self fun id reader => ?_
      obtain ⟨consumer, member, rfl⟩ := List.mem_map.mp reader
      exact covered output.1 written consumer member

/-! ## Visits -/

/-- Record what a visit finds out, once its node has been noted. -/
private def digest (propagator : Propagator) (graph : Graph) (node : Node) (noted : Progress) :
    ExceptT PropagationError Logged Progress :=
  match propagator.evaluate graph noted.states node with
  | .ok results => return recordAll graph node results noted
  | .error (.tensor .trap) => throw .trap
  | .error cause => do
      report (failureEntry node cause)
      return recordAll graph node [] noted

private theorem visit_eq (node : Node) (progress : Progress) :
    propagator.visit graph node progress =
      (liftM (noteUnhandled propagator node progress) : ExceptT PropagationError Logged Progress)
        >>= digest propagator graph node := rfl

private theorem noteUnhandled_requeue (node : Node) (progress : Progress) (queue : List Nat) :
    noteUnhandled propagator node (progress.requeue queue) =
      (fun noted => noted.requeue queue) <$> noteUnhandled propagator node progress := by
  rw [noteUnhandled, noteUnhandled, Progress.unhandled_requeue]
  split <;> rfl

private theorem map_digest {node : Node} (noted other : Progress) {change : Progress → Progress}
    (states : other.states = noted.states)
    (same : ∀ results, change (recordAll graph node results other) =
      change (recordAll graph node results noted)) :
    change <$> digest propagator graph node other =
      change <$> digest propagator graph node noted := by
  rw [digest, digest, states]
  split
  · simp only [map_pure, same]
  · rfl
  · simp only [map_bind, map_pure, same]

/-- The queue has no part in a visit. -/
theorem visit_requeue (node : Node) (progress : Progress) (queue rest : List Nat) :
    (fun next => next.requeue rest) <$> propagator.visit graph node (progress.requeue queue) =
      (fun next => next.requeue rest) <$> propagator.visit graph node progress := by
  rw [visit_eq, visit_eq, noteUnhandled_requeue, map_bind, map_bind, liftM_map, bind_map_left]
  refine bind_congr fun noted => ?_
  exact map_digest noted (noted.requeue queue) rfl fun results =>
    requeue_recordAll node results noted queue rest

private theorem digest_covered {node : Node} (noted : Progress)
    (covered : Covered graph node noted.queue) :
    digest propagator graph node noted =
      (fun next => next.requeue noted.queue) <$> digest propagator graph node noted := by
  have same : ∀ results, (recordAll graph node results noted).requeue noted.queue =
      recordAll graph node results noted := by
    intro results
    rw [← queue_recordAll covered results]
    rfl
  rw [digest]
  split
  · rw [map_pure, same]
  · rfl
  · rw [map_bind]
    simp only [map_pure, same]

/-- A visit that has nothing to queue leaves the queue as it is. -/
theorem visit_covered {node : Node} {progress : Progress}
    (covered : Covered graph node progress.queue) :
    propagator.visit graph node progress =
      (fun next => next.requeue progress.queue) <$> propagator.visit graph node progress := by
  have noting : noteUnhandled propagator node progress =
      (fun noted => noted.requeue progress.queue) <$> noteUnhandled propagator node progress :=
    noteUnhandled_requeue node progress progress.queue
  rw [visit_eq, noting, liftM_map, bind_map_left, map_bind]
  refine bind_congr fun noted => ?_
  exact digest_covered (noted.requeue progress.queue) covered

/-! ## The run -/

theorem reads_of_mem_consumersOf {stale : List (Nat × Nat)} (traced : graph.Traced stale)
    {tensor : String} {consumer : Node} (member : consumer ∈ graph.consumersOf tensor) :
    consumer ∈ graph.live ∧ tensor ∈ consumer.reads := by
  obtain ⟨id, listed, found⟩ := List.mem_filterMap.mp member
  have consumerMember : consumer ∈ graph.live := Graph.mem_live_iff.mpr ⟨id, found⟩
  rw [traced.consumers, Graph.getD_entry, ← traced.placed id consumer found] at listed
  exact ⟨consumerMember, (traced.placed.mem_readerIds_iff consumerMember tensor).mp listed⟩

/-- What reads an output of a node comes later in the order. -/
theorem InOrder.covered {stale : List (Nat × Nat)} (traced : graph.Traced stale)
    (ordered : InOrder graph.live) {done rest : List Node} {node : Node}
    (live : graph.live = done ++ node :: rest) :
    Covered graph node (rest.map Node.id) := by
  intro tensor written consumer member
  obtain ⟨consumerMember, read⟩ := reads_of_mem_consumersOf traced member
  have member : node ∈ graph.live := by
    rw [live]
    exact List.mem_append_right _ List.mem_cons_self
  rw [live, List.mem_append, List.mem_cons] at consumerMember
  rcases consumerMember with earlier | rfl | later
  · have order := ordered.later
    rw [live, List.pairwise_append] at order
    exact absurd read (order.2.2 consumer earlier node List.mem_cons_self tensor written)
  · exact absurd read (ordered.itself consumer member tensor written)
  · exact List.mem_map_of_mem later

private theorem loop_cons {limit left : Nat} {node : Node} {queue : List Nat}
    (found : graph.node? node.id = some node) (progress : Progress) :
    loop propagator graph limit (left + 1) (progress.requeue (node.id :: queue)) =
      propagator.visit graph node (progress.requeue queue) >>=
        loop propagator graph limit left := by
  rw [loop.eq_def]
  simp only [Progress.queue_requeue, found]
  rfl

/-- As long as the queue is what is left of the order, the loop is a pass over what is left. -/
theorem loop_eq_pass {stale : List (Nat × Nat)} (traced : graph.Traced stale)
    (ordered : InOrder graph.live) {limit left : Nat} {done rest : List Node} (progress : Progress)
    (live : graph.live = done ++ rest) (enough : rest.length ≤ left) :
    loop propagator graph limit left (progress.requeue (rest.map Node.id)) =
      (fun final => (final.requeue [], limit - (left - rest.length))) <$>
        propagator.pass graph rest progress := by
  induction rest generalizing done left progress with
  | nil =>
    rw [pass, List.foldlM_nil, map_pure]
    unfold loop
    rfl
  | cons node rest ih =>
    obtain ⟨left, rfl⟩ := Nat.exists_eq_add_of_le' (Nat.lt_of_lt_of_le (Nat.succ_pos _) enough)
    have found : graph.node? node.id = some node := traced.placed.node?_of_mem (by
      rw [live]
      exact List.mem_append_right _ List.mem_cons_self)
    have covered : Covered graph node (progress.requeue (rest.map Node.id)).queue :=
      ordered.covered traced live
    have onwards : graph.live = (done ++ [node]) ++ rest := by
      rw [live, List.append_assoc, List.singleton_append]
    have fits : rest.length ≤ left := by
      rw [List.length_cons] at enough
      omega
    have visits : left + 1 - (node :: rest).length = left - rest.length := by
      rw [List.length_cons]
      omega
    -- A visit queues nothing, so that the queue before it may be any and the one after it is known.
    calc
      _ = propagator.visit graph node (progress.requeue (rest.map Node.id)) >>=
            loop propagator graph limit left := loop_cons found progress
      _ = (fun next => next.requeue (rest.map Node.id)) <$>
            propagator.visit graph node progress >>= loop propagator graph limit left := by
        rw [visit_covered covered, visit_requeue]
        rfl
      _ = _ := by
        rw [bind_map_left, pass, List.foldlM_cons, map_bind, visits]
        exact bind_congr fun next => ih next onwards fits

theorem size_le_limit (default : propagator.visitLimit = 0) (graph : Graph) :
    graph.size ≤ propagator.limit graph := by
  rw [limit, if_pos default]
  omega

/-- A run over ordered nodes is a single pass over them, from what is known at the start. -/
theorem run_eq_pass {stale : List (Nat × Nat)} (traced : graph.Traced stale)
    (ordered : InOrder graph.live) (enough : graph.size ≤ propagator.limit graph) :
    propagator.run graph = do
      let final ← propagator.pass graph graph.live ⟨initialStates graph, [], []⟩
      return ⟨final.states,
        (graph.live.filter fun node => final.unhandled.contains node.id).map Node.name,
        graph.size⟩ := by
  have looped (limit : Nat) :
      loop propagator graph limit _ (Progress.requeue ⟨initialStates graph, [], []⟩ _) = _ :=
    loop_eq_pass traced ordered _ (List.nil_append graph.live).symm enough
  have visits : propagator.limit graph - (propagator.limit graph - graph.live.length) =
      graph.size := Nat.sub_sub_self enough
  rw [run]
  change loop propagator graph _ _ (Progress.requeue ⟨initialStates graph, [], []⟩ _) >>= _ = _
  rw [looped, bind_map_left, visits]
  rfl

/-! ## What a visit makes of the knowledge -/

/-- What is recorded about a tensor once something has been found out about it. -/
def revise (previous : Option Knowledge) (next : Knowledge) : Option Knowledge :=
  if isRecorded previous next then previous else some next

/-- The knowledge after a visit, unless the visit traps. -/
def learn (propagator : Propagator) (graph : Graph) (states : Dict Knowledge) (node : Node) :
    Option (Dict Knowledge) :=
  (findings (propagator.evaluate graph states node)).map fun results =>
    (recordAll graph node results ⟨states, [], []⟩).states

/-- The knowledge after visits to nodes in turn, unless one of them traps. -/
def sweep (propagator : Propagator) (graph : Graph) (nodes : List Node) (states : Dict Knowledge) :
    Option (Dict Knowledge) := nodes.foldlM (propagator.learn graph) states

theorem get?_record (progress : Progress) {tensor : String} (present : tensor ≠ "")
    (next : Knowledge) : (record graph progress tensor next).states.get? tensor =
      revise (progress.states.get? tensor) next := by
  rw [record_eq, revise, decide_eq_false present, Bool.false_or]
  split
  · rfl
  · rw [Dict.get?_insert, if_pos rfl]

private theorem get?_foldl_record (results : List Knowledge) (outputs : List String) (start : Nat)
    (progress : Progress) {tensor : String} (present : tensor ≠ "") :
    let after := (outputs.zipIdx start).foldl (fun progress output =>
      record graph progress output.1 (results.getD output.2 .unknown)) progress
    (tensor ∉ outputs → after.states.get? tensor = progress.states.get? tensor) ∧
      ((outputs.filter fun tensor => tensor ≠ "").Nodup → ∀ index,
        outputs[index]? = some tensor → after.states.get? tensor =
          revise (progress.states.get? tensor) (results.getD (start + index) .unknown)) := by
  induction outputs generalizing start progress with
  | nil => exact ⟨fun _ => rfl, by simp⟩
  | cons first rest ih =>
    obtain ⟨kept, revised⟩ :=
      ih (start + 1) (record graph progress first (results.getD start .unknown))
    simp only [List.zipIdx_cons, List.foldl_cons]
    refine ⟨fun unlisted => ?_, fun distinct index position => ?_⟩
    · rw [List.mem_cons, not_or] at unlisted
      rw [kept unlisted.2, get?_record_of_ne _ _ _ unlisted.1]
    · cases index with
      | zero =>
        obtain rfl : first = tensor := Option.some.inj position
        rw [List.filter_cons_of_pos (by simp [present]), List.nodup_cons] at distinct
        have later : first ∉ rest := fun member =>
          distinct.1 (List.mem_filter.mpr ⟨member, decide_eq_true present⟩)
        rw [kept later, get?_record progress present, Nat.add_zero]
      | succ index =>
        have distinctRest : (rest.filter fun tensor => tensor ≠ "").Nodup :=
          distinct.sublist ((List.sublist_cons_self first rest).filter _)
        have different : tensor ≠ first := by
          rintro rfl
          rw [List.filter_cons_of_pos (by simp [present]), List.nodup_cons] at distinct
          exact distinct.1 (List.mem_filter.mpr
            ⟨List.mem_of_getElem? position, decide_eq_true present⟩)
        rw [revised distinctRest index position, get?_record_of_ne _ _ _ different,
          Nat.add_assoc, Nat.add_comm 1 index]

/-- A visit revises what is recorded about the outputs of its node, and nothing else. -/
theorem learn_spec {states next : Dict Knowledge} {node : Node}
    (learned : propagator.learn graph states node = some next) :
    ∃ results, findings (propagator.evaluate graph states node) = some results ∧
      (∀ tensor ∉ node.writes, next.get? tensor = states.get? tensor) ∧
      (node.writes.Nodup → ∀ index tensor, node.outputs[index]? = some tensor → tensor ≠ "" →
        next.get? tensor = revise (states.get? tensor) (results.getD index .unknown)) := by
  obtain ⟨results, found, rfl⟩ := Option.map_eq_some_iff.mp learned
  refine ⟨results, found, (recordAll_spec graph node results _).2.1, ?_⟩
  intro distinct index tensor position present
  have revised := (@get?_foldl_record graph results node.outputs 0 ⟨states, [], []⟩ _
    present).2 distinct index position
  rwa [Nat.zero_add] at revised

/-! ## Passes without their journal -/

/-- A result, or the trap that stands in its place. -/
def orTrap {α : Type} : Option α → Except PropagationError α
  | some result => .ok result
  | none => .error .trap

/-- The result of a sequence, from the result of its first step. -/
private theorem fst_run_bind {α β : Type} (first : ExceptT PropagationError Logged α)
    (next : α → ExceptT PropagationError Logged β) (journal : Journal) :
    ((first >>= next).run.run journal).1 =
      match (first.run.run journal).1 with
      | .ok value => ((next value).run.run (first.run.run journal).2).1
      | .error cause => .error cause := by
  rw [ExceptT.run_bind, StateT.run_bind]
  generalize StateT.run first.run journal = done
  rcases done with ⟨_ | _, _⟩ <;> rfl

/-- The states after recording hang on the states before. -/
private theorem states_recordAll (node : Node) (results : List Knowledge) {one other : Progress}
    (same : one.states = other.states) :
    (recordAll graph node results one).states = (recordAll graph node results other).states := by
  rw [recordAll, recordAll]
  generalize node.outputs.zipIdx = outputs
  induction outputs generalizing one other with
  | nil => exact same
  | cons output outputs ih =>
    refine ih ?_
    dsimp only
    rw [record_eq, record_eq, same]
    split
    · exact same
    · rfl

private theorem states_visit (node : Node) (progress : Progress) (journal : Journal) :
    ((propagator.visit graph node progress).run.run journal).1.map Progress.states =
      orTrap (propagator.learn graph progress.states node) := by
  have same : ((noteUnhandled propagator node progress).run journal).1.states =
      progress.states := by
    rw [noteUnhandled]
    split <;> rfl
  have lifted : (liftM (noteUnhandled propagator node progress) :
      ExceptT PropagationError Logged Progress).run.run journal =
        (.ok ((noteUnhandled propagator node progress).run journal).1,
          ((noteUnhandled propagator node progress).run journal).2) := rfl
  rw [visit, learn, fst_run_bind, lifted]
  generalize ((noteUnhandled propagator node progress).run journal) = noted at same ⊢
  dsimp only
  rw [same]
  generalize propagator.evaluate graph progress.states node = outcome
  split
  · exact congrArg Except.ok (states_recordAll node _ same)
  · rfl
  · next cause notTrap =>
    have failed : findings (.error cause) = some [] := by
      rw [findings]
      exact notTrap
    rw [failed]
    exact congrArg Except.ok (states_recordAll node [] same)

theorem states_pass (nodes : List Node) (progress : Progress) (journal : Journal) :
    ((propagator.pass graph nodes progress).run.run journal).1.map Progress.states =
      orTrap (propagator.sweep graph nodes progress.states) := by
  induction nodes generalizing progress journal with
  | nil => rfl
  | cons node rest ih =>
    have visited : ((propagator.visit graph node progress).run.run journal).1.map
        Progress.states = _ := states_visit node progress journal
    rw [pass, sweep, List.foldlM_cons, List.foldlM_cons, fst_run_bind]
    cases outcome : ((propagator.visit graph node progress).run.run journal).1 with
    | error cause =>
      rw [outcome] at visited
      cases learned : propagator.learn graph progress.states node with
      | none =>
        rw [learned] at visited
        exact visited
      | some next =>
        rw [learned] at visited
        cases visited
    | ok value =>
      rw [outcome] at visited
      cases learned : propagator.learn graph progress.states node with
      | none =>
        rw [learned] at visited
        cases visited
      | some next =>
        rw [learned] at visited
        obtain rfl : value.states = next := Except.ok.inj visited
        exact ih value _

theorem states_run {stale : List (Nat × Nat)} (traced : graph.Traced stale)
    (ordered : InOrder graph.live) (enough : graph.size ≤ propagator.limit graph)
    (journal : Journal) :
    ((propagator.run graph).run.run journal).1.map Propagation.states =
      orTrap (propagator.sweep graph graph.live (initialStates graph)) := by
  have passed : ((propagator.pass graph graph.live ⟨initialStates graph, [], []⟩).run.run
      journal).1.map Progress.states = _ := states_pass graph.live _ journal
  rw [run_eq_pass traced ordered enough, fst_run_bind]
  refine Eq.trans ?_ passed
  cases ((propagator.pass graph graph.live ⟨initialStates graph, [], []⟩).run.run journal).1 <;> rfl

end Propagator

end StaticNet
