import Mathlib.Order.Lattice.Nat
import StaticNet.Proofs.Dict
import StaticNet.Proofs.Program.Order
import StaticNet.Storage.LiveRange

/-! # The live ranges of a schedule

Live ranges are found in one pass over an order of nodes, in which a read counts only if its tensor
has been written by then. Where no node of a graph writes an input or a constant, a schedule writes
each tensor once and reads it only after that, so that no read is missed: the range of a tensor runs
from the step that writes it to the last one that reads it, and two ranges overlap exactly when a
step lies in both.
-/

namespace StaticNet

namespace LiveRange

/-! ## Traces -/

/-- The node at a step of an order writes a tensor. -/
def WrittenAt (order : List Node) (tensor : String) (step : Nat) : Prop :=
  ∃ node, order[step]? = some node ∧ tensor ∈ node.writes

/-- The node at a step of an order reads a tensor. -/
def ReadAt (order : List Node) (tensor : String) (step : Nat) : Prop :=
  ∃ node, order[step]? = some node ∧ tensor ∈ node.reads

variable {order : List Node} {tensor : String} {step : Nat}

theorem WrittenAt.lt_length (written : WrittenAt order tensor step) : step < order.length := by
  obtain ⟨node, found, -⟩ := written
  exact (List.getElem?_eq_some_iff.mp found).1

theorem ReadAt.lt_length (read : ReadAt order tensor step) : step < order.length := by
  obtain ⟨node, found, -⟩ := read
  exact (List.getElem?_eq_some_iff.mp found).1

/-- What holds at a step of a longer order holds at a step of the shorter one or at the new step. -/
private theorem exists_getElem?_snoc {good : Node → Prop} {last : Node} :
    (∃ node, (order ++ [last])[step]? = some node ∧ good node) ↔
      (∃ node, order[step]? = some node ∧ good node) ∨ step = order.length ∧ good last := by
  rcases Nat.lt_trichotomy step order.length with before | rfl | after
  · simp [List.getElem?_append_left before, Nat.ne_of_lt before]
  · simp
  · have beyond : (order ++ [last])[step]? = none := by
      apply List.getElem?_eq_none
      simp only [List.length_append, List.length_singleton]
      omega
    have none : order[step]? = none := List.getElem?_eq_none (Nat.le_of_lt after)
    simp [beyond, none, Nat.ne_of_gt after]

theorem writtenAt_snoc_iff {last : Node} : WrittenAt (order ++ [last]) tensor step ↔
    WrittenAt order tensor step ∨ step = order.length ∧ tensor ∈ last.writes :=
  exists_getElem?_snoc

theorem readAt_snoc_iff {last : Node} : ReadAt (order ++ [last]) tensor step ↔
    ReadAt order tensor step ∨ step = order.length ∧ tensor ∈ last.reads :=
  exists_getElem?_snoc

theorem trace_snoc (order : List Node) (last : Node) :
    trace (order ++ [last]) = (trace order).visit order.length last := by
  simp [trace, List.zipIdx_append, List.foldl_append]

/-- A step that is recorded under some names is found under these. -/
private theorem get?_foldl_insert_step (tensors : List String) (steps : Dict Nat) (now : Nat)
    (tensor : String) :
    (tensors.foldl (fun steps tensor => steps.insert tensor now) steps).get? tensor =
      if tensor ∈ tensors then some now else steps.get? tensor := by
  induction tensors generalizing steps with
  | nil => simp
  | cons first rest ih =>
    rw [List.foldl_cons, ih, Dict.get?_insert]
    by_cases here : tensor = first
    · simp [here]
    · simp [here]

/-- The greatest of the steps before a new one, or the new one if it counts. -/
private theorem isGreatest_snoc_iff {steps : Nat → Prop} {now : Nat} {here : Prop} [Decidable here]
    (before : ∀ step, steps step → step < now) :
    IsGreatest {step | steps step ∨ step = now ∧ here} step ↔
      if here then step = now else IsGreatest {step | steps step} step := by
  split
  · next counts =>
    have top : IsGreatest {step | steps step ∨ step = now ∧ here} now := by
      refine ⟨.inr ⟨rfl, counts⟩, ?_⟩
      rintro other (earlier | ⟨rfl, -⟩)
      · exact Nat.le_of_lt (before other earlier)
      · exact Nat.le_refl _
    exact ⟨fun greatest => greatest.unique top, fun same => same ▸ top⟩
  · next absent => simp [absent]

private theorem exists_isGreatest {steps : Nat → Prop} {bound : Nat}
    (before : ∀ step, steps step → step < bound) (held : steps step) :
    ∃ last, IsGreatest {step | steps step} last := by
  have bounded : BddAbove {step | steps step} := ⟨bound, fun step held => (before step held).le⟩
  exact ⟨_, Nat.sSup_mem ⟨step, held⟩ bounded, fun _ held => le_csSup bounded held⟩

theorem get?_starts_snoc (order : List Node) (last : Node) (tensor : String) :
    (trace (order ++ [last])).starts.get? tensor =
      if tensor ∈ last.writes then some order.length else (trace order).starts.get? tensor := by
  rw [trace_snoc]
  exact get?_foldl_insert_step last.writes _ _ tensor

/-- The recorded start of a tensor is the last step that writes it. -/
theorem get?_starts_trace (order : List Node) (tensor : String) (step : Nat) :
    (trace order).starts.get? tensor = some step ↔
      IsGreatest {step | WrittenAt order tensor step} step := by
  induction order using List.reverseRecOn generalizing step with
  | nil => simp [trace, WrittenAt, IsGreatest]
  | append_singleton order last ih =>
    simp only [writtenAt_snoc_iff]
    rw [isGreatest_snoc_iff fun _ => WrittenAt.lt_length, get?_starts_snoc]
    split
    · rw [Option.some.injEq, eq_comm]
    · exact ih step

/-- A tensor has a recorded start exactly when some step writes it. -/
theorem contains_starts_trace (order : List Node) (tensor : String) :
    (trace order).starts.contains tensor = true ↔ ∃ step, WrittenAt order tensor step := by
  constructor
  · intro held
    obtain ⟨step, found⟩ := Option.isSome_iff_exists.mp held
    exact ⟨step, ((get?_starts_trace order tensor step).mp found).1⟩
  · rintro ⟨step, written⟩
    obtain ⟨last, greatest⟩ := exists_isGreatest (fun _ => WrittenAt.lt_length) written
    exact Option.isSome_iff_exists.mpr ⟨last, (get?_starts_trace order tensor last).mpr greatest⟩

theorem get?_stops_snoc (order : List Node) (last : Node) (tensor : String) :
    (trace (order ++ [last])).stops.get? tensor =
      if tensor ∈ last.inputs ∧ (trace (order ++ [last])).starts.contains tensor = true then
        some order.length
      else (trace order).stops.get? tensor := by
  have visited := get?_foldl_insert_step
    (last.inputs.filter (trace (order ++ [last])).starts.contains) (trace order).stops order.length
    tensor
  simp only [List.mem_filter] at visited
  rw [← visited, trace_snoc]
  rfl

/-- The recorded stop of a tensor is the last step that reads it after it has been written. -/
theorem get?_stops_trace (order : List Node) (tensor : String) (step : Nat) :
    (trace order).stops.get? tensor = some step ↔
      IsGreatest {step | ReadAt order tensor step ∧ ∃ first ≤ step, WrittenAt order tensor first}
        step := by
  induction order using List.reverseRecOn generalizing step with
  | nil => simp [trace, ReadAt, IsGreatest]
  | append_singleton order last ih =>
    -- A read at an earlier step counts in the longer order exactly when it did so before.
    have counts (step : Nat) : (ReadAt (order ++ [last]) tensor step ∧
          ∃ first ≤ step, WrittenAt (order ++ [last]) tensor first) ↔
        (ReadAt order tensor step ∧ ∃ first ≤ step, WrittenAt order tensor first) ∨
          step = order.length ∧
            tensor ∈ last.inputs ∧ (trace (order ++ [last])).starts.contains tensor = true := by
      rw [contains_starts_trace]
      constructor
      · rintro ⟨read, first, early, written⟩
        rcases readAt_snoc_iff.mp read with before | ⟨now, reads⟩
        · rcases writtenAt_snoc_iff.mp written with wrote | ⟨rfl, -⟩
          · exact .inl ⟨before, first, early, wrote⟩
          · exact absurd before.lt_length (Nat.not_lt.mpr early)
        · exact .inr ⟨now, (Node.mem_reads_iff.mp reads).1, first, written⟩
      · rintro (⟨before, first, early, wrote⟩ | ⟨rfl, listed, first, written⟩)
        · exact ⟨readAt_snoc_iff.mpr (.inl before), first, early,
            writtenAt_snoc_iff.mpr (.inl wrote)⟩
        · have inside := written.lt_length
          rw [List.length_append, List.length_singleton] at inside
          have early : first ≤ order.length := by omega
          obtain ⟨node, found, writes⟩ := written
          have present := (Node.mem_writes_iff.mp writes).2
          exact ⟨readAt_snoc_iff.mpr (.inr ⟨rfl, Node.mem_reads_iff.mpr ⟨listed, present⟩⟩), first,
            early, node, found, writes⟩
    simp only [counts]
    rw [isGreatest_snoc_iff fun _ counted => counted.1.lt_length, get?_stops_snoc]
    split
    · rw [Option.some.injEq, eq_comm]
    · exact ih step

/-! ## Schedules -/

variable {graph : Graph} {layer? : Nat → Option Layer}

/-- A task of a schedule writes a tensor at a step. -/
def Writes (tasks : List Task) (tensor : String) (step : Int) : Prop :=
  ∃ task ∈ tasks, task.step = step ∧ tensor ∈ task.node.writes

/-- A task of a schedule reads a tensor at a step. -/
def Reads (tasks : List Task) (tensor : String) (step : Int) : Prop :=
  ∃ task ∈ tasks, task.step = step ∧ tensor ∈ task.node.reads

/-- A step lies in a range. -/
def Covers (range : LiveRange) (step : Int) : Prop := range.start ≤ step ∧ step ≤ range.stop

/-- The range of a tensor in a schedule starts at the step that writes the tensor, which is the only
such step. The range of a declared output stops at the last step, and any other one at the last step
that reads the tensor, if there is one after the start. -/
structure Exact (graph : Graph) (tasks : List Task) (range : LiveRange) : Prop where
  start : ∀ step, Writes tasks range.tensor step ↔ step = range.start
  declared : graph.isOutput range.tensor = true → range.stop = tasks.length - 1
  read : graph.isOutput range.tensor = false →
    IsGreatest {step | step = range.start ∨ Reads tasks range.tensor step} range.stop
  covers : ∀ step, Writes tasks range.tensor step ∨ Reads tasks range.tensor step →
    range.Covers step

/-- The tasks of a schedule are numbered in order. -/
theorem step_of_ofNodes {first : Nat} {available : List String} {nodes : List Node}
    {tasks : List Task} (done : Schedule.ofNodes graph layer? first available nodes = .ok tasks)
    {index : Nat} {task : Task} (found : tasks[index]? = some task) :
    task.step = first + index := by
  induction nodes generalizing first available tasks index with
  | nil =>
    cases done
    cases found
  | cons node rest ih =>
    rw [Schedule.ofNodes] at done
    split at done
    · cases done
    · split at done
      · cases done
      · obtain ⟨others, scheduled, same⟩ := Outcome.bind_eq_ok_iff.mp done
        cases same
        cases index with
        | zero =>
          cases found
          rfl
        | succ index =>
          have later := ih scheduled found
          omega

/-- A step of a schedule is a position among its nodes. -/
private theorem exists_task_iff {tasks : List Task} (good : Node → Prop)
    (numbered : ∀ (index : Nat) (task : Task), tasks[index]? = some task → task.step = index)
    (step : Int) : (∃ task ∈ tasks, task.step = step ∧ good task.node) ↔
      ∃ index : Nat, step = index ∧
        ∃ node, (tasks.map Task.node)[index]? = some node ∧ good node := by
  constructor
  · rintro ⟨task, member, rfl, held⟩
    obtain ⟨index, found⟩ := List.mem_iff_getElem?.mp member
    rw [numbered index task found]
    exact ⟨index, rfl, task.node, by rw [List.getElem?_map, found, Option.map_some], held⟩
  · rintro ⟨index, rfl, node, found, held⟩
    rw [List.getElem?_map, Option.map_eq_some_iff] at found
    obtain ⟨task, found, rfl⟩ := found
    exact ⟨task, List.mem_of_getElem? found, congrArg _ (numbered index task found), held⟩

/-- A tensor is written at one step. -/
theorem WrittenAt.unique (placed : graph.Placed) (agree : Graph.WritersAgree graph.live)
    {one other : Nat} (first : WrittenAt graph.live tensor one)
    (second : WrittenAt graph.live tensor other) : one = other := by
  obtain ⟨node, found, writes⟩ := first
  obtain ⟨again, foundAgain, writesAgain⟩ := second
  have same : node.id = again.id := agree node (List.mem_of_getElem? found) again
    (List.mem_of_getElem? foundAgain) tensor writes writesAgain
  obtain ⟨inside, rfl⟩ := List.getElem?_eq_some_iff.mp found
  obtain ⟨insideAgain, rfl⟩ := List.getElem?_eq_some_iff.mp foundAgain
  have ascending := List.pairwise_iff_getElem.mp placed.pairwise_lt
  rcases Nat.lt_trichotomy one other with less | equal | greater
  · exact absurd same (Nat.ne_of_lt (ascending one other inside insideAgain less))
  · exact equal
  · exact absurd same.symm (Nat.ne_of_lt (ascending other one insideAgain inside greater))

/-- In a good order, a tensor that some step writes is read only after it has been written. -/
theorem ReadAt.exists_writtenAt (shares : graph.SharesNames) (exclusive : graph.Exclusive)
    (ordered : Schedule.OrderedFrom graph (graph.inputs.map Edge.id) graph.live)
    (read : ReadAt graph.live tensor step) {other : Nat}
    (written : WrittenAt graph.live tensor other) :
    ∃ first < step, WrittenAt graph.live tensor first := by
  obtain ⟨reader, found, reads⟩ := read
  obtain ⟨writer, foundWriter, writes⟩ := written
  obtain ⟨noInput, noConstant⟩ :=
    exclusive writer (List.mem_of_getElem? foundWriter) tensor writes
  obtain ⟨inside, rfl⟩ := List.getElem?_eq_some_iff.mp found
  obtain ⟨listed, present⟩ := Node.mem_reads_iff.mp reads
  have split : graph.live =
      graph.live.take step ++ graph.live[step] :: graph.live.drop (step + 1) := by simp
  -- The only source that is left is a node before the reader.
  cases ordered _ _ _ split tensor listed with
  | absent same => exact absurd same present
  | attached known =>
    rw [shares _ (List.getElem_mem inside) tensor known] at noConstant
    cases noConstant
  | constant known =>
    rw [known] at noConstant
    cases noConstant
  | given listed =>
    rw [Graph.isInput_iff.mpr listed] at noInput
    cases noInput
  | produced producer before wrote =>
    obtain ⟨first, early, rfl⟩ := List.mem_take_iff_getElem.mp before
    have bounds : first < step ∧ first < graph.live.length := by omega
    exact ⟨first, bounds.1, graph.live[first], List.getElem?_eq_getElem bounds.2,
      Node.mem_writes_iff.mpr ⟨wrote, present⟩⟩

/-- A tensor is written at one step of an order and read only after it. -/
structure ProducedAt (order : List Node) (tensor : String) (first : Nat) : Prop where
  only : ∀ step, WrittenAt order tensor step ↔ step = first
  after : ∀ step, ReadAt order tensor step → first < step

/-- In a good order every tensor with a recorded start is written there and read after that. -/
theorem producedAt_of_starts (placed : graph.Placed) (agree : Graph.WritersAgree graph.live)
    (shares : graph.SharesNames) (exclusive : graph.Exclusive)
    (ordered : Schedule.OrderedFrom graph (graph.inputs.map Edge.id) graph.live) {first : Nat}
    (found : (trace graph.live).starts.get? tensor = some first) :
    ProducedAt graph.live tensor first := by
  obtain ⟨written, -⟩ := (get?_starts_trace graph.live tensor first).mp found
  refine ⟨fun step => ⟨fun again => again.unique placed agree written, fun same => same ▸ written⟩,
    fun step read => ?_⟩
  obtain ⟨earlier, less, wrote⟩ := read.exists_writtenAt shares exclusive ordered written
  rwa [wrote.unique placed agree written] at less

/-- What a trace says of the stop of such a tensor is the last step that reads it, and its start if
there is none. -/
theorem ProducedAt.isGreatest_stop {first : Nat} (produced : ProducedAt order tensor first) :
    IsGreatest {step | step = first ∨ ReadAt order tensor step}
      (((trace order).stops.get? tensor).getD first) := by
  have counted (step : Nat) : (ReadAt order tensor step ∧
      ∃ earlier ≤ step, WrittenAt order tensor earlier) ↔ ReadAt order tensor step :=
    ⟨And.left, fun read =>
      ⟨read, first, (produced.after step read).le, (produced.only first).mpr rfl⟩⟩
  have last := get?_stops_trace order tensor
  simp only [counted] at last
  cases stopped : (trace order).stops.get? tensor with
  | none =>
    refine ⟨.inl rfl, ?_⟩
    rintro step (rfl | read)
    · exact Nat.le_refl _
    · obtain ⟨final, top⟩ := exists_isGreatest (fun _ => ReadAt.lt_length) read
      rw [(last final).mpr top] at stopped
      cases stopped
  | some final =>
    obtain ⟨read, top⟩ := (last final).mp stopped
    refine ⟨.inr read, ?_⟩
    rintro step (rfl | earlier)
    · exact (produced.after final read).le
    · exact top earlier

theorem map_tensor_ofOrder (graph : Graph) (order : List Node) :
    (ofOrder graph order).map LiveRange.tensor = (trace order).starts.sortedKeys := by
  rw [ofOrder, List.map_map]
  exact List.map_id _

/-- What a range says is read off the trace of the order. -/
theorem of_mem_ofOrder {range : LiveRange} (member : range ∈ ofOrder graph order) :
    ∃ first, (trace order).starts.get? range.tensor = some first ∧ range.start = first ∧
      range.stop = if graph.isOutput range.tensor then (order.length - 1 : Nat)
        else ((trace order).stops.get? range.tensor).getD first := by
  obtain ⟨tensor, listed, rfl⟩ := List.mem_map.mp member
  obtain ⟨first, found⟩ := Dict.mem_sortedKeys_iff.mp listed
  refine ⟨first, found, by rw [found, Option.getD_some], ?_⟩
  rw [found, Option.getD_some]

/-- A range that is read off the trace is exact. -/
private theorem exact_of_mem {tasks : List Task} {range : LiveRange}
    (numbered : ∀ (index : Nat) (task : Task), tasks[index]? = some task → task.step = index)
    (produced : ∀ tensor first, (trace (tasks.map Task.node)).starts.get? tensor = some first →
      ProducedAt (tasks.map Task.node) tensor first)
    (member : range ∈ ofOrder graph (tasks.map Task.node)) : Exact graph tasks range := by
  obtain ⟨first, found, start, stop⟩ := of_mem_ofOrder member
  have produced := produced range.tensor first found
  have writes : ∀ step, Writes tasks range.tensor step ↔
      ∃ index : Nat, step = index ∧ WrittenAt (tasks.map Task.node) range.tensor index :=
    exists_task_iff (fun node => range.tensor ∈ node.writes) numbered
  have reads : ∀ step, Reads tasks range.tensor step ↔
      ∃ index : Nat, step = index ∧ ReadAt (tasks.map Task.node) range.tensor index :=
    exists_task_iff (fun node => range.tensor ∈ node.reads) numbered
  have inside := ((produced.only first).mpr rfl).lt_length
  obtain ⟨held, top⟩ := produced.isGreatest_stop
  simp only [produced.only, exists_eq_right] at writes
  rw [List.length_map] at inside stop
  have declared (declared : graph.isOutput range.tensor = true) :
      range.stop = tasks.length - 1 := by
    rw [if_pos declared] at stop
    omega
  have read (undeclared : graph.isOutput range.tensor = false) :
      IsGreatest {step | step = range.start ∨ Reads tasks range.tensor step} range.stop := by
    rw [undeclared, if_neg Bool.false_ne_true] at stop
    rw [start, stop]
    constructor
    · rcases held with same | read
      · exact .inl (congrArg _ same)
      · exact .inr ((reads _).mpr ⟨_, rfl, read⟩)
    · rintro step (rfl | used)
      · exact Int.ofNat_le.mpr (top (.inl rfl))
      · obtain ⟨index, rfl, read⟩ := (reads step).mp used
        exact Int.ofNat_le.mpr (top (.inr read))
  refine ⟨fun step => by rw [writes, start], declared, read, fun step used => ?_⟩
  have bounds : range.start ≤ step ∧ step < tasks.length := by
    rcases used with wrote | used
    · rw [(writes step).mp wrote]
      omega
    · obtain ⟨index, rfl, read⟩ := (reads step).mp used
      have less := produced.after index read
      have bound := read.lt_length
      rw [List.length_map] at bound
      omega
  refine ⟨bounds.1, ?_⟩
  cases stated : graph.isOutput range.tensor with
  | true =>
    rw [declared stated]
    omega
  | false =>
    refine (read stated).2 (used.imp (fun wrote => ?_) id)
    rw [(writes step).mp wrote, start]

/-- A range that starts at a step and holds it has its start before its stop. -/
private theorem Exact.start_le_stop {tasks : List Task} {range : LiveRange}
    (exact : Exact graph tasks range) : range.start ≤ range.stop :=
  (exact.covers range.start (.inl ((exact.start _).mpr rfl))).2

/-- Ranges that do not end before they start overlap exactly when a step lies in both, which may be
the start of one of them. -/
private theorem overlaps_iff {left right : LiveRange} (leftValid : left.start ≤ left.stop)
    (rightValid : right.start ≤ right.stop) :
    left.overlaps right = true ↔ (left.Covers right.start ∨ right.Covers left.start) := by
  simp only [overlaps, Covers, Bool.and_eq_true, decide_eq_true_eq]
  omega

/-- The live ranges of a schedule of a graph in which no node writes an input or a constant: there
is one for every tensor that a task writes, in name order, each of them exact, and two overlap
exactly when some step of the schedule lies in both. -/
theorem exact_ofOrder {spec : GraphSpec} {start : Graph} (built : Graph.build spec = .ok start)
    (edits : List Edit) (exclusive : (start.edited edits).Exclusive) {tasks : List Task}
    (scheduled : Schedule.ofGraph (start.edited edits) layer? = .ok tasks) :
    ((ofOrder (start.edited edits) (tasks.map Task.node)).map LiveRange.tensor).Pairwise (· < ·) ∧
      (∀ tensor,
        tensor ∈ (ofOrder (start.edited edits) (tasks.map Task.node)).map LiveRange.tensor ↔
          ∃ task ∈ tasks, tensor ∈ task.node.writes) ∧
      (∀ range ∈ ofOrder (start.edited edits) (tasks.map Task.node),
        Exact (start.edited edits) tasks range) ∧
      ∀ left ∈ ofOrder (start.edited edits) (tasks.map Task.node),
        ∀ right ∈ ofOrder (start.edited edits) (tasks.map Task.node),
          (left.overlaps right = true ↔
            ∃ task ∈ tasks, left.Covers task.step ∧ right.Covers task.step) := by
  have traced := (Graph.traced_of_build built).edited edits
  have shares := (Graph.built_of_build built).sharesNames.edited edits
  generalize start.edited edits = graph at *
  obtain ⟨nodes, -⟩ := Schedule.ofNodes_spec scheduled
  have ordered := ((Schedule.ofNodes_isOk_iff 0 _ _).mp ⟨tasks, scheduled⟩).1
  have numbered (index : Nat) (task : Task) (found : tasks[index]? = some task) :
      task.step = index := by
    rw [step_of_ofNodes scheduled found, Nat.zero_add]
  have exact (range : LiveRange) (member : range ∈ ofOrder graph (tasks.map Task.node)) :
      Exact graph tasks range := by
    refine exact_of_mem numbered (fun tensor first => ?_) member
    rw [nodes]
    exact producedAt_of_starts traced.placed traced.single.agree shares exclusive ordered
  refine ⟨?_, fun tensor => ?_, exact, fun left leftMember right rightMember => ?_⟩
  · rw [map_tensor_ofOrder]
    exact Dict.pairwise_sortedKeys _
  · rw [map_tensor_ofOrder, Dict.mem_sortedKeys_iff, ← Option.isSome_iff_exists]
    refine (contains_starts_trace _ tensor).trans ?_
    constructor
    · rintro ⟨step, node, found, writes⟩
      obtain ⟨task, member, rfl⟩ := List.mem_map.mp (List.mem_of_getElem? found)
      exact ⟨task, member, writes⟩
    · rintro ⟨task, member, writes⟩
      obtain ⟨step, found⟩ := List.mem_iff_getElem?.mp (List.mem_map_of_mem (f := Task.node) member)
      exact ⟨step, task.node, found, writes⟩
  · have leftExact := exact left leftMember
    have rightExact := exact right rightMember
    rw [overlaps_iff leftExact.start_le_stop rightExact.start_le_stop]
    constructor
    · rintro (covers | covers)
      · obtain ⟨task, member, same, -⟩ := (rightExact.start _).mpr rfl
        rw [← same] at covers
        exact ⟨task, member, covers, same ▸ ⟨Int.le_refl _, rightExact.start_le_stop⟩⟩
      · obtain ⟨task, member, same, -⟩ := (leftExact.start _).mpr rfl
        rw [← same] at covers
        exact ⟨task, member, same ▸ ⟨Int.le_refl _, leftExact.start_le_stop⟩, covers⟩
    · rintro ⟨task, -, inLeft, inRight⟩
      simp only [Covers] at inLeft inRight ⊢
      have leftValid := leftExact.start_le_stop
      have rightValid := rightExact.start_le_stop
      omega

/-! ## A schedule with unread and declared outputs -/

/-- A node with an output that nothing reads and one that is skipped, a declared output that is read
before the last step, and a node at the end whose output is of no use. -/
def branches : GraphSpec where
  name := "branches"
  nodes :=
    [ ⟨"split", "Split", ["x"], ["a", "b", ""], .empty⟩,
      ⟨"left", "Relu", ["a"], ["c"], .empty⟩,
      ⟨"join", "Add", ["a", "q"], ["d"], .empty⟩,
      ⟨"idle", "Relu", ["x"], ["e"], .empty⟩ ]
  inputs := [⟨"x", 1, some [2]⟩]
  outputs := [⟨"d", 1, some [2]⟩, ⟨"c", 1, some [2]⟩]
  initializers := .empty
  values := []

/-- The graph of the description, in which the third node reads the output of the second. -/
def branchesGraph : Graph :=
  ((Graph.build branches).toOption.get rfl).edited [.rewire "q" "c"]

private theorem isSome_branches :
    (Schedule.ofGraph branchesGraph fun _ =>
      some ⟨"", "", "", .object "" .globalMaxPool⟩).toOption.isSome = true := by
  decide +kernel

/-- Its schedule. -/
def branchesTasks : List Task :=
  (Schedule.ofGraph branchesGraph fun _ =>
    some ⟨"", "", "", .object "" .globalMaxPool⟩).toOption.get isSome_branches

/-- Declared outputs are kept up to the last step, although that step is of no use to them. -/
theorem exact_ofOrder_branches :
    ofOrder branchesGraph (branchesTasks.map Task.node) =
        [⟨"a", 0, 2⟩, ⟨"b", 0, 0⟩, ⟨"c", 1, 3⟩, ⟨"d", 2, 3⟩, ⟨"e", 3, 3⟩] ∧
      Exact branchesGraph branchesTasks ⟨"a", 0, 2⟩ ∧
      ∃ task ∈ branchesTasks, Covers ⟨"a", 0, 2⟩ task.step ∧ Covers ⟨"d", 2, 3⟩ task.step := by
  have ranges : ofOrder branchesGraph (branchesTasks.map Task.node) =
      [⟨"a", 0, 2⟩, ⟨"b", 0, 0⟩, ⟨"c", 1, 3⟩, ⟨"d", 2, 3⟩, ⟨"e", 3, 3⟩] := by
    decide +kernel
  have built : Graph.build branches = .ok _ := Outcome.eq_ok_get rfl
  have exclusive : branchesGraph.Exclusive := by
    unfold Graph.Exclusive
    decide +kernel
  obtain ⟨-, -, exact, overlaps⟩ := exact_ofOrder built [.rewire "q" "c"] exclusive
    (Outcome.eq_ok_get isSome_branches)
  have first : (⟨"a", 0, 2⟩ : LiveRange) ∈ ofOrder branchesGraph (branchesTasks.map Task.node) := by
    rw [ranges]
    decide
  have last : (⟨"d", 2, 3⟩ : LiveRange) ∈ ofOrder branchesGraph (branchesTasks.map Task.node) := by
    rw [ranges]
    decide
  exact ⟨ranges, exact _ first, (overlaps _ first _ last).mp (by decide)⟩

end LiveRange

end StaticNet
