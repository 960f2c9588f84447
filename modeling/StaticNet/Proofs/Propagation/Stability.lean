import StaticNet.Proofs.Graph.Editing
import StaticNet.Proofs.Propagation.Agreement
import StaticNet.Proofs.Propagation.Absent

/-! # Propagation ends at a fixed point

A node is settled when visiting it again would find out what is recorded about its outputs. A visit
settles its node unless the node reads what it writes, and it disturbs only nodes that read a tensor
whose recorded knowledge has changed. These are queued, so that at all times a node is queued or
settled. Nothing is asked of the transfer functions: knowledge may become less precise.
-/

namespace StaticNet

namespace Propagator

variable {propagator : Propagator} {graph : Graph}

/-- What a visit finds out about the outputs of its node. A transfer function that fails finds out
nothing; one that traps ends the run. -/
def findings : TransferResult → Option (List Knowledge)
  | .ok results => some results
  | .error (.tensor .trap) => none
  | .error _ => some []

/-- Findings agree with what is recorded about the outputs that are present. Where nothing is
recorded or found, nothing is known. -/
def Confirms (states : Dict Knowledge) (outputs : List String) (results : List Knowledge) : Prop :=
  ∀ index tensor, outputs[index]? = some tensor → tensor ≠ "" →
    (results.getD index .unknown).agrees ((states.get? tensor).getD .unknown) = true

/-- Visiting a node finds out what is recorded. -/
def Settled (propagator : Propagator) (graph : Graph) (states : Dict Knowledge) (node : Node) :
    Prop :=
  ∃ results, findings (propagator.evaluate graph states node) = some results ∧
    Confirms states node.outputs results

/-! ## Recording -/

/-- A run has gone on from one point to another: nothing has left the queue, and whoever reads a
tensor whose state has changed is queued. -/
structure Follows (graph : Graph) (before after : Progress) : Prop where
  queue : before.queue ⊆ after.queue
  changed : ∀ tensor, after.states.get? tensor = before.states.get? tensor ∨
    ∀ consumer ∈ graph.consumersOf tensor, consumer.id ∈ after.queue

theorem Follows.refl (progress : Progress) : Follows graph progress progress :=
  ⟨List.Subset.refl _, fun _ => .inl rfl⟩

theorem Follows.trans {before middle after : Progress} (first : Follows graph before middle)
    (second : Follows graph middle after) : Follows graph before after := by
  refine ⟨List.Subset.trans first.queue second.queue, fun tensor => ?_⟩
  rcases second.changed tensor with same | queued
  · rcases first.changed tensor with earlier | queued
    · exact .inl (same.trans earlier)
    · exact .inr fun consumer member => second.queue (queued consumer member)
  · exact .inr queued

theorem mem_enqueue_iff (queue ids : List Nat) (id : Nat) :
    id ∈ enqueue queue ids ↔ id ∈ queue ∨ id ∈ ids := by
  rw [enqueue]
  induction ids generalizing queue with
  | nil => simp
  | cons first rest ih =>
    rw [List.foldl_cons, ih]
    split
    · next queued =>
      have member : first ∈ queue := List.contains_iff_mem.mp queued
      grind
    · rw [List.mem_append, List.mem_singleton, List.mem_cons, or_assoc]

/-- Recording leaves the state as it is, which then agrees, or changes it and queues whoever reads
the tensor. -/
theorem record_cases (graph : Graph) (progress : Progress) {tensor : String} (present : tensor ≠ "")
    (next : Knowledge) :
    (record graph progress tensor next = progress ∧
        next.agrees ((progress.states.get? tensor).getD .unknown) = true) ∨
      record graph progress tensor next =
        { progress with
          states := progress.states.insert tensor next
          queue := enqueue progress.queue ((graph.consumersOf tensor).map Node.id) } := by
  simp only [record, present, decide_false, Bool.false_or]
  cases progress.states.get? tensor with
  | none =>
    cases known : next.isKnown with
    | false => exact .inl ⟨rfl, Knowledge.agrees_unknown known⟩
    | true => exact .inr rfl
  | some previous =>
    cases same : previous.agrees next with
    | true => exact .inl ⟨by simp [same], (Knowledge.agrees_comm next previous).trans same⟩
    | false => exact .inr (by simp [same])

theorem record_absent (graph : Graph) (progress : Progress) (next : Knowledge) :
    record graph progress "" next = progress := by simp [record]

theorem Follows.record (graph : Graph) (progress : Progress) (tensor : String) (next : Knowledge) :
    Follows graph progress (record graph progress tensor next) := by
  by_cases absent : tensor = ""
  · rw [absent, record_absent]
    exact .refl progress
  · rcases record_cases graph progress absent next with ⟨same, -⟩ | changed
    · rw [same]
      exact .refl progress
    · rw [changed]
      refine ⟨fun id queued => (mem_enqueue_iff _ _ id).mpr (.inl queued), fun other => ?_⟩
      by_cases here : other = tensor
      · subst here
        exact .inr fun consumer member =>
          (mem_enqueue_iff _ _ _).mpr (.inr (List.mem_map_of_mem member))
      · exact .inl (by simp [here])

/-- Only the recorded tensor changes its state. -/
theorem get?_record_of_ne (graph : Graph) (progress : Progress) {tensor other : String}
    (next : Knowledge) (different : other ≠ tensor) :
    (record graph progress tensor next).states.get? other = progress.states.get? other := by
  by_cases absent : tensor = ""
  · rw [absent, record_absent]
  · rcases record_cases graph progress absent next with ⟨same, -⟩ | changed
    · rw [same]
    · rw [changed, Dict.get?_insert, if_neg different]

/-- Recording the results of a visit leaves the state of a tensor as it is, unless the tensor is an
output that has a result. -/
theorem get?_recordAll (graph : Graph) (node : Node) (results : List Knowledge)
    (progress : Progress) (tensor : String) :
    (recordAll graph node results progress).states.get? tensor = progress.states.get? tensor ∨
      ∃ index, node.outputs[index]? = some tensor ∧ tensor ≠ "" ∧
        (recordAll graph node results progress).states.get? tensor =
          some (results.getD index .unknown) := by
  rw [recordAll]
  refine List.foldlRecOn (motive := fun next : Progress =>
    next.states.get? tensor = progress.states.get? tensor ∨
      ∃ index, node.outputs[index]? = some tensor ∧ tensor ≠ "" ∧
        next.states.get? tensor = some (results.getD index .unknown)) _ _ (.inl rfl) ?_
  intro next earlier output listed
  by_cases here : tensor = output.1
  · subst here
    by_cases absent : output.1 = ""
    · have same : record graph next output.1 (results.getD output.2 .unknown) = next := by
        rw [absent, record_absent]
      rwa [same]
    · rcases record_cases graph next absent (results.getD output.2 .unknown) with
        ⟨same, -⟩ | changed
      · rwa [same]
      · refine .inr ⟨output.2, List.mem_zipIdx_iff_getElem?.mp listed, absent, ?_⟩
        rw [changed, Dict.get?_insert, if_pos rfl]
  · rwa [get?_record_of_ne graph next _ here]

theorem agrees_record (graph : Graph) (progress : Progress) {tensor : String}
    (present : tensor ≠ "") (next : Knowledge) :
    next.agrees (((record graph progress tensor next).states.get? tensor).getD .unknown) =
      true := by
  rcases record_cases graph progress present next with ⟨same, agrees⟩ | changed
  · rw [same, agrees]
  · rw [changed, Dict.get?_insert, if_pos rfl]
    exact next.agrees_refl

/-- Recording the results of a visit, one output after the other. Outputs with different names do
not get into each other's way. -/
private theorem foldl_record_spec (graph : Graph) (results : List Knowledge)
    (outputs : List String) (start : Nat) (progress : Progress) :
    let after := (outputs.zipIdx start).foldl (fun progress output =>
      record graph progress output.1 (results.getD output.2 .unknown)) progress
    Follows graph progress after ∧
      (∀ tensor, tensor ∉ outputs → after.states.get? tensor = progress.states.get? tensor) ∧
      ((outputs.filter fun tensor => tensor ≠ "").Nodup →
        ∀ index tensor, outputs[index]? = some tensor → tensor ≠ "" →
          (results.getD (start + index) .unknown).agrees
            ((after.states.get? tensor).getD .unknown) = true) := by
  induction outputs generalizing start progress with
  | nil => exact ⟨.refl _, fun _ _ => rfl, by simp⟩
  | cons first rest ih =>
    obtain ⟨follows, kept, confirmed⟩ :=
      ih (start + 1) (record graph progress first (results.getD start .unknown))
    simp only [List.zipIdx_cons, List.foldl_cons]
    refine ⟨(Follows.record ..).trans follows, ?_, ?_⟩
    · intro tensor unlisted
      rw [List.mem_cons, not_or] at unlisted
      rw [kept tensor unlisted.2, get?_record_of_ne _ _ _ unlisted.1]
    · intro distinct index tensor position present
      cases index with
      | zero =>
        obtain rfl : first = tensor := Option.some.inj position
        rw [List.filter_cons_of_pos (by simp [present]), List.nodup_cons] at distinct
        have later : first ∉ rest := fun member =>
          distinct.1 (List.mem_filter.mpr ⟨member, decide_eq_true present⟩)
        rw [kept first later]
        exact agrees_record graph progress present _
      | succ index =>
        have distinctRest : (rest.filter fun tensor => tensor ≠ "").Nodup :=
          distinct.sublist ((List.sublist_cons_self first rest).filter _)
        have later := confirmed distinctRest index tensor position present
        rwa [Nat.add_assoc, Nat.add_comm 1 index] at later

theorem recordAll_spec (graph : Graph) (node : Node) (results : List Knowledge)
    (progress : Progress) :
    Follows graph progress (recordAll graph node results progress) ∧
      (∀ tensor ∉ node.writes, (recordAll graph node results progress).states.get? tensor =
        progress.states.get? tensor) ∧
      (node.writes.Nodup →
        Confirms (recordAll graph node results progress).states node.outputs results) := by
  obtain ⟨follows, kept, confirmed⟩ := foldl_record_spec graph results node.outputs 0 progress
  refine ⟨follows, fun tensor unwritten => ?_, fun distinct => ?_⟩
  · by_cases absent : tensor = ""
    · rw [absent]
      exact absent_recordAll node results progress
    · exact kept tensor fun listed =>
        unwritten (List.mem_filter.mpr ⟨listed, decide_eq_true absent⟩)
  · intro index tensor position present
    have agrees := confirmed distinct index tensor position present
    rwa [Nat.zero_add] at agrees

/-! ## Visiting -/

/-- A visit looks at the states of what its node reads. -/
theorem evaluate_congr {states others : Dict Knowledge} {node : Node}
    (same : ∀ tensor ∈ node.reads, others.get? tensor = states.get? tensor) :
    propagator.evaluate graph others node = propagator.evaluate graph states node := by
  rw [evaluate, evaluate]
  split
  · rfl
  · next transfer _ =>
    congr 1
    refine List.map_congr_left fun tensor listed => ?_
    rw [inputState, inputState]
    split
    · rfl
    · next present =>
      rw [same tensor (List.mem_filter.mpr ⟨listed, decide_eq_true present⟩)]

/-- A node stays settled while the states of what it reads and writes stay as they are. -/
theorem Settled.congr {states others : Dict Knowledge} {node : Node}
    (settled : Settled propagator graph states node)
    (reads : ∀ tensor ∈ node.reads, others.get? tensor = states.get? tensor)
    (writes : ∀ tensor ∈ node.writes, others.get? tensor = states.get? tensor) :
    Settled propagator graph others node := by
  obtain ⟨results, found, confirmed⟩ := settled
  refine ⟨results, (congrArg findings (evaluate_congr reads)).trans found, ?_⟩
  intro index tensor position present
  have written : tensor ∈ node.writes :=
    List.mem_filter.mpr ⟨List.mem_of_getElem? position, decide_eq_true present⟩
  rw [writes tensor written]
  exact confirmed index tensor position present

/-- A visit records what it finds out. -/
theorem visit_cases {node : Node} {progress next : Progress}
    (yields : (propagator.visit graph node progress).run.Yields (.ok next)) :
    ∃ results noted, findings (propagator.evaluate graph progress.states node) = some results ∧
      noted.states = progress.states ∧ noted.queue = progress.queue ∧
      next = recordAll graph node results noted := by
  obtain ⟨noted, noting, rest⟩ := Logged.Yields.of_bind_ok yields
  have kept : noted.states = progress.states ∧ noted.queue = progress.queue := by
    have noting := Logged.Yields.of_lift noting
    rw [noteUnhandled] at noting
    split at noting
    · rw [Logged.Yields.of_pure noting]
      exact ⟨rfl, rfl⟩
    · rw [Logged.Yields.of_pure (Logged.Yields.of_report noting)]
      exact ⟨rfl, rfl⟩
  rw [kept.1] at rest
  split at rest
  · next results evaluated =>
    cases Logged.Yields.of_pure rest
    exact ⟨results, noted, by rw [evaluated, findings], kept.1, kept.2, rfl⟩
  · cases Logged.Yields.of_pure rest
  · next cause notTrap evaluated =>
    obtain ⟨_, -, last⟩ := Logged.Yields.of_bind_ok rest
    cases Logged.Yields.of_pure last
    refine ⟨[], noted, ?_, kept.1, kept.2, rfl⟩
    rw [evaluated, findings]
    exact notTrap

/-! ## The run -/

/-- Every live node is queued or settled. -/
def Attended (propagator : Propagator) (graph : Graph) (progress : Progress) : Prop :=
  ∀ node ∈ graph.live, node.id ∈ progress.queue ∨ Settled propagator graph progress.states node

/-- Who is not queued has seen no change. -/
private theorem Follows.get?_reads {stale : List (Nat × Nat)} (traced : graph.Traced stale)
    {before after : Progress} (follows : Follows graph before after) {node : Node}
    (member : node ∈ graph.live) (unqueued : node.id ∉ after.queue) :
    ∀ tensor ∈ node.reads, after.states.get? tensor = before.states.get? tensor := by
  intro tensor read
  rcases follows.changed tensor with same | queued
  · exact same
  · have consumer := traced.readersListed.mem_consumersOf traced.placed member read
    exact absurd (queued node consumer) unqueued

theorem Attended.visit {stale : List (Nat × Nat)} (traced : graph.Traced stale) {node : Node}
    (member : node ∈ graph.live) {progress next : Progress}
    (attended : Attended propagator graph { progress with queue := node.id :: progress.queue })
    (yields : (propagator.visit graph node progress).run.Yields (.ok next)) :
    Attended propagator graph next := by
  obtain ⟨results, noted, found, states, queue, rfl⟩ := visit_cases yields
  obtain ⟨follows, kept, confirmed⟩ := recordAll_spec graph node results noted
  rw [← states] at found
  intro other otherMember
  by_cases queued : other.id ∈ (recordAll graph node results noted).queue
  · exact .inl queued
  · have unread := follows.get?_reads traced otherMember queued
    refine .inr ?_
    by_cases same : other.id = node.id
    · -- The node itself has recorded what it found out and has not changed what it reads.
      obtain rfl := traced.placed.eq_of_id member otherMember same.symm
      exact ⟨results, (congrArg findings (evaluate_congr unread)).trans found,
        confirmed (traced.single.distinct node member)⟩
    · -- Another node was settled, and nothing that it reads or writes has changed.
      have unwritten : ∀ tensor ∈ other.writes,
          (recordAll graph node results noted).states.get? tensor = noted.states.get? tensor :=
        fun tensor written => kept tensor fun wrote =>
          same (traced.single.agree other otherMember node member tensor written wrote)
      have unqueued : other.id ∉ progress.queue := fun earlier =>
        queued (follows.queue (queue ▸ earlier))
      rcases attended other otherMember with earlier | settled
      · rcases List.mem_cons.mp earlier with here | earlier
        · exact absurd here same
        · exact absurd earlier unqueued
      · rw [← states] at settled
        exact settled.congr unread unwritten

/-- An id that stands for no node can be passed over. -/
theorem Attended.skip (placed : graph.Placed) {progress : Progress} {id : Nat} {queue : List Nat}
    (attended : Attended propagator graph progress) (front : progress.queue = id :: queue)
    (gone : graph.node? id = none) : Attended propagator graph { progress with queue } := by
  intro node member
  rcases attended node member with queued | settled
  · rw [front] at queued
    rcases List.mem_cons.mp queued with rfl | later
    · rw [placed.node?_of_mem member] at gone
      cases gone
    · exact .inl later
  · exact .inr settled

/-- When the run ends, nothing is queued, so all nodes are settled. -/
theorem settled_loop {stale : List (Nat × Nat)} (traced : graph.Traced stale) {limit fuel : Nat}
    {progress : Progress} {outcome : Progress × Nat} (attended : Attended propagator graph progress)
    (yields : (loop propagator graph limit fuel progress).run.Yields (.ok outcome)) :
    ∀ node ∈ graph.live, Settled propagator graph outcome.1.states node := by
  obtain ⟨attendedLast, empty⟩ := loop_induction (Attended propagator graph)
    (fun _ _ _ front gone attended => attended.skip traced.placed front gone)
    (fun progress next id queue node front found visited attended => by
      obtain rfl : node.id = id := traced.placed id node found
      refine Attended.visit traced (Graph.mem_live_iff.mpr ⟨_, found⟩) ?_ visited
      rw [← front]
      exact attended) attended yields
  intro node member
  rcases attendedLast node member with queued | settled
  · rw [empty] at queued
    cases queued
  · exact settled

theorem settled_run {stale : List (Nat × Nat)} (traced : graph.Traced stale)
    {propagation : Propagation} (yields : (propagator.run graph).run.Yields (.ok propagation)) :
    ∀ node ∈ graph.live, Settled propagator graph propagation.states node := by
  obtain ⟨⟨progress, visits⟩, looped, rest⟩ := Logged.Yields.of_bind_ok yields
  cases Logged.Yields.of_pure rest
  exact settled_loop traced (fun node member => .inl (List.mem_map_of_mem member)) looped

/-- When propagation through a graph has a result, every node is settled: a further visit finds out
about each output that is present what is recorded about it. -/
theorem agrees_of_run {spec : GraphSpec} {start : Graph} (built : Graph.build spec = .ok start)
    (edits : List Edit) {journal : Journal} {propagation : Propagation}
    (run : ((propagator.run (start.edited edits)).run.run journal).1 = .ok propagation) :
    ∀ node ∈ (start.edited edits).live, ∃ results,
      findings (propagator.evaluate (start.edited edits) propagation.states node) = some results ∧
        ∀ index tensor, node.outputs[index]? = some tensor → tensor ≠ "" →
          (results.getD index .unknown).agrees (propagation.state tensor) = true :=
  settled_run ((Graph.traced_of_build built).edited edits) (.of_run run)

/-! ## A run with feedback -/

/-- A graph that feeds back: two nodes read what they write, one of them after an edit, two others
read from each other, and one has an operator without a transfer function. -/
def feedback : GraphSpec where
  name := "feedback"
  nodes :=
    [ ⟨"grow", "Grow", ["x", "y"], ["c"], .empty⟩,
      ⟨"odd", "Erf", ["c"], ["d", ""], .empty⟩,
      ⟨"there", "Relu", ["e"], ["f"], .empty⟩,
      ⟨"back", "Relu", ["f"], ["e"], .empty⟩,
      ⟨"blank", "Blank", ["n"], ["n"], .empty⟩ ]
  inputs := [⟨"x", 1, some [2]⟩]
  outputs := [⟨"d", 1, none⟩, ⟨"n", 1, none⟩]
  initializers := .empty
  values := [⟨"d", 1, some [7]⟩]

/-- The built-in transfer functions, one whose result changes once its second input is known, and
one that finds out a value that is no number. -/
def growing : Propagator where
  transfers := (Transfer.builtin.insert "Grow" ⟨false, fun _ inputs =>
    .ok [if (inputs.getD 1 .unknown).isKnown then .shape [2] else .shape [1]]⟩).insert "Blank"
      ⟨true, fun _ _ => .ok [.exact (.line .float32 [.invalid])]⟩
  visitLimit := 0

/-- The graph that feeds back. -/
def feedbackGraph : Graph := (Graph.build feedback).toOption.get rfl

private theorem isSome_feedback :
    ((growing.run (feedbackGraph.edited [.rewire "y" "c"])).run.run []).1.toOption.isSome =
      true := by
  decide +kernel

/-- What propagation finds out about it. -/
def feedbackKnowledge : Propagation :=
  ((growing.run (feedbackGraph.edited [.rewire "y" "c"])).run.run []).1.toOption.get isSome_feedback

/-- The node that reads what it writes is visited three times. -/
theorem agrees_of_run_feedback :
    feedbackKnowledge.visits = 9 ∧ feedbackKnowledge.state "c" = .shape [2] ∧
      ∀ node ∈ (feedbackGraph.edited [.rewire "y" "c"]).live, ∃ results,
        findings (growing.evaluate (feedbackGraph.edited [.rewire "y" "c"])
            feedbackKnowledge.states node) = some results ∧
          ∀ index tensor, node.outputs[index]? = some tensor → tensor ≠ "" →
            (results.getD index .unknown).agrees (feedbackKnowledge.state tensor) = true := by
  have built : Graph.build feedback = .ok feedbackGraph := rfl
  have run : ((growing.run (feedbackGraph.edited [.rewire "y" "c"])).run.run []).1 =
      .ok feedbackKnowledge := Outcome.eq_ok_get isSome_feedback
  exact ⟨by decide +kernel, by decide +kernel, agrees_of_run built _ run⟩

end Propagator

end StaticNet
