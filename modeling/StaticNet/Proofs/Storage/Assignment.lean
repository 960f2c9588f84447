import StaticNet.Proofs.Logged
import StaticNet.Proofs.Outcome
import StaticNet.Proofs.Storage.Naming

/-! # Assigning buffers

A computation over the pool is taken apart like a logged one. Whatever such computations do, the
pool only grows, by buffers that fit the graph and by layer identifiers: each buffer has the shape
that the graph knows for its tensor, no two have the same tensor or the same name, and no two nodes
have the same identifier.
-/

namespace StaticNet

/-! ## Runs over the pool -/

theorem Logged.Yields.of_state_bind {σ α β : Type} {first : StateT σ Logged α}
    {next : α → StateT σ Logged β} {before after : σ} {result : β}
    (yields : ((first >>= next).run before).Yields (result, after)) :
    ∃ value middle, (first.run before).Yields (value, middle) ∧
      ((next value).run middle).Yields (result, after) := by
  rw [StateT.run_bind] at yields
  obtain ⟨⟨value, middle⟩, done, rest⟩ := of_bind yields
  exact ⟨value, middle, done, rest⟩

theorem Logged.Yields.of_state_report {σ β : Type} {entry : Entry}
    {next : PUnit → StateT σ Logged β} {before after : σ} {result : β}
    (yields : (((liftM (report entry) : StateT σ Logged PUnit) >>= next).run before).Yields
      (result, after)) : ((next ()).run before).Yields (result, after) := by
  obtain ⟨_, middle, done, rest⟩ := of_state_bind yields
  obtain ⟨journal, run⟩ := done
  obtain rfl : before = middle := congrArg Prod.snd run
  exact rest

theorem Logged.Yields.of_state_lift {ε α : Type} {computation : Allocating α}
    {before after : BufferPool} {outcome : Except ε α}
    (yields : ((liftM computation : ExceptT ε Allocating α).run.run before).Yields
      (outcome, after)) :
    ∃ value, outcome = .ok value ∧ (computation.run before).Yields (value, after) := by
  obtain ⟨journal, run⟩ := yields
  have lifted : Except.ok ((computation.run before).run journal).1.1 = outcome :=
    congrArg Prod.fst run
  have pool : ((computation.run before).run journal).1.2 = after := congrArg Prod.snd run
  exact ⟨_, lifted.symm, journal, Prod.ext rfl pool⟩

/-- A computation that may fail succeeds with a result and takes one pool to another. -/
def Assigns {ε α : Type} (computation : ExceptT ε Allocating α) (before : BufferPool) (result : α)
    (after : BufferPool) : Prop :=
  (computation.run.run before).Yields (.ok result, after)

namespace Assigns

variable {ε δ α β : Type} {before after : BufferPool}

theorem of_run {computation : ExceptT ε Allocating α} {journal : Journal} {result : α}
    (run : ((computation.run.run before).run journal).1.1 = .ok result) :
    Assigns computation before result ((computation.run.run before).run journal).1.2 :=
  ⟨journal, Prod.ext run rfl⟩

theorem of_pure {value result : α}
    (assigns : Assigns (pure value : ExceptT ε Allocating α) before result after) :
    result = value ∧ after = before := by
  cases Logged.Yields.of_pure assigns
  exact ⟨rfl, rfl⟩

theorem of_throw {cause : ε} {result : α}
    (assigns : Assigns (throw cause : ExceptT ε Allocating α) before result after) : False := by
  cases Logged.Yields.of_pure assigns

theorem of_bind {first : ExceptT ε Allocating α} {next : α → ExceptT ε Allocating β} {result : β}
    (assigns : Assigns (first >>= next) before result after) :
    ∃ value middle,
      Assigns first before value middle ∧ Assigns (next value) middle result after := by
  rw [Assigns, ExceptT.run_bind, StateT.run_bind] at assigns
  obtain ⟨⟨outcome, middle⟩, done, rest⟩ := Logged.Yields.of_bind assigns
  cases outcome with
  | error cause => cases Logged.Yields.of_pure rest
  | ok value => exact ⟨value, middle, done, rest⟩

theorem of_adapt {wrap : ε → δ} {computation : ExceptT ε Allocating α} {result : α}
    (assigns : Assigns (ExceptT.adapt wrap computation) before result after) :
    Assigns computation before result after := by
  obtain ⟨journal, run⟩ := assigns
  have outcome : ((computation.run.run before).run journal).1.1.mapError wrap = .ok result :=
    congrArg Prod.fst run
  have pool : ((computation.run.run before).run journal).1.2 = after := congrArg Prod.snd run
  exact ⟨journal, Prod.ext (Outcome.mapError_eq_ok_iff.mp outcome) pool⟩

theorem of_lift {computation : Allocating α} {result : α}
    (assigns : Assigns (liftM computation : ExceptT ε Allocating α) before result after) :
    (computation.run before).Yields (result, after) := by
  obtain ⟨_, same, yields⟩ := Logged.Yields.of_state_lift assigns
  cases same
  exact yields

theorem of_except {outcome : Except ε α} {result : α}
    (assigns : Assigns (liftM outcome : ExceptT ε Allocating α) before result after) :
    outcome = .ok result ∧ after = before := by
  obtain ⟨journal, run⟩ := assigns
  exact ⟨congrArg Prod.fst run, (congrArg Prod.snd run).symm⟩

theorem of_report {entry : Entry} {result : PUnit}
    (assigns : Assigns (liftM (report entry) : ExceptT ε Allocating PUnit) before result after) :
    after = before := by
  obtain ⟨journal, run⟩ := assigns
  exact (congrArg Prod.snd run).symm

/-- A computation that goes on past a refusal does not meet its condition. -/
theorem of_refusal {condition : Prop} [Decidable condition] {cause : ε}
    {next : PUnit → ExceptT ε Allocating β} {result : β}
    (assigns : Assigns (if condition then throw cause >>= next else next ⟨⟩) before result after) :
    ¬ condition ∧ Assigns (next ⟨⟩) before result after := by
  split at assigns
  · obtain ⟨_, _, thrown, -⟩ := assigns.of_bind
    exact thrown.of_throw.elim
  · next unmet => exact ⟨unmet, assigns⟩

/-- A first step that is taken under a condition only is followed by the others. -/
theorem of_guarded {condition : Prop} [Decidable condition] {first : ExceptT ε Allocating PUnit}
    {next : PUnit → ExceptT ε Allocating β} {result : β}
    (assigns : Assigns (if condition then first >>= next else next ⟨⟩) before result after) :
    ∃ middle, Assigns (next ⟨⟩) middle result after := by
  split at assigns
  · obtain ⟨_, middle, -, rest⟩ := assigns.of_bind
    exact ⟨middle, rest⟩
  · exact ⟨before, assigns⟩

/-- What the steps of a sequence keep, the sequence keeps, also when it tells of the inputs so
far. -/
theorem foldlM_invariant (good : List α → β → Prop) {step : β → α → ExceptT ε Allocating β}
    (done : List α) {inputs : List α}
    (keeps : ∀ done state input before next after, input ∈ inputs → good done state →
      Assigns (step state input) before next after → good (done ++ [input]) next)
    {state final : β} (start : good done state)
    (assigns : Assigns (inputs.foldlM step state) before final after) :
    good (done ++ inputs) final := by
  induction inputs generalizing done state before with
  | nil =>
    obtain ⟨rfl, rfl⟩ := assigns.of_pure
    rwa [List.append_nil]
  | cons input rest ih =>
    rw [List.foldlM_cons] at assigns
    obtain ⟨next, middle, first, others⟩ := assigns.of_bind
    rw [List.append_cons]
    exact ih _ (fun done state input before next after listed =>
      keeps done state input before next after (List.mem_cons_of_mem _ listed))
      (keeps done state input before next middle (List.mem_cons_self ..) start first) others

end Assigns

/-! ## Growing pools -/

/-- The pool with an identifier for a node. -/
def BufferPool.identify (pool : BufferPool) (node : Node) : BufferPool :=
  { pool with
    layers := pool.layers ++
      [(node.id, freshName (pool.layers.map Prod.snd) (Text.symbol node.name))] }

/-- The pool in which a tensor has a buffer, which is added when there is none. -/
def BufferPool.assign (pool : BufferPool) (graph : Graph) (tensor : String) : BufferPool :=
  match pool.find? tensor with
  | some _ => pool
  | none => pool.push (pool.fresh graph tensor)

/-- The pool in which a node has an identifier, which is added when there is none. -/
def BufferPool.nameLayer (pool : BufferPool) (node : Node) : BufferPool :=
  match pool.layers.lookup node.id with
  | some _ => pool
  | none => pool.identify node

/-- A buffer, if the generated code can store it. -/
def Buffer.storable (buffer : Buffer) : Except StorageError Buffer :=
  match buffer.shape with
  | none => .error (.unknownShape buffer.tensor)
  | some shape =>
      if buffer.form = .unsupported then .error (.unsupportedRank buffer.tensor shape)
      else .ok buffer

/-- The second pool is the first one with further buffers of tensors that had none, and with
identifiers for nodes that had none. -/
inductive BufferPool.Extends (graph : Graph) (before : BufferPool) : BufferPool → Prop
  | refl : Extends graph before before
  | push {pool : BufferPool} {tensor : String} :
      Extends graph before pool → pool.find? tensor = none →
      Extends graph before (pool.push (pool.fresh graph tensor))
  | named {pool : BufferPool} {node : Node} :
      Extends graph before pool → pool.layers.lookup node.id = none →
      Extends graph before (pool.identify node)

/-- The buffers of a pool fit a graph: no two share a tensor or a name, each has the shape that the
graph knows, and its name tells its role. No two nodes share an identifier. -/
structure BufferPool.Fits (graph : Graph) (pool : BufferPool) : Prop where
  shapes : ∀ buffer ∈ pool.buffers, buffer.shape = graph.knownShape? buffer.tensor
  tensors : (pool.buffers.map Buffer.tensor).Nodup
  names : pool.names.Nodup
  stems : ∀ buffer ∈ pool.buffers, ∃ rest, buffer.name = buffer.role.stem ++ rest
  identifiers : (pool.layers.map Prod.snd).Nodup

namespace BufferPool

variable {graph : Graph} {before middle after : BufferPool}

theorem Extends.trans (first : Extends graph before middle) (second : Extends graph middle after) :
    Extends graph before after := by
  induction second with
  | refl => exact first
  | push _ absent ih => exact .push ih absent
  | named _ absent ih => exact .named ih absent

/-- A buffer that was assigned once stays assigned. -/
theorem Extends.find? (extends_ : Extends graph before after) {tensor : String} {buffer : Buffer}
    (found : before.find? tensor = some buffer) : after.find? tensor = some buffer := by
  induction extends_ with
  | refl => exact found
  | push _ _ ih =>
    rw [BufferPool.find?] at ih ⊢
    rw [BufferPool.push, List.find?_append, ih, Option.some_or]
  | named _ _ ih => exact ih

/-- A node that has an identifier keeps it. -/
theorem Extends.lookup (extends_ : Extends graph before after) {id : Nat} {identifier : String}
    (found : before.layers.lookup id = some identifier) :
    after.layers.lookup id = some identifier := by
  induction extends_ with
  | refl => exact found
  | push _ _ ih => exact ih
  | named _ _ ih => rw [identify, List.lookup_append, ih, Option.some_or]

theorem tensor_of_find? {pool : BufferPool} {tensor : String} {buffer : Buffer}
    (found : pool.find? tensor = some buffer) : buffer ∈ pool.buffers ∧ buffer.tensor = tensor := by
  rw [find?] at found
  have same := List.find?_some found
  exact ⟨List.mem_of_find?_eq_some found, of_decide_eq_true same⟩

theorem fits_empty (graph : Graph) : BufferPool.empty.Fits graph where
  shapes := fun _ member => nomatch member
  tensors := List.nodup_nil
  names := List.nodup_nil
  stems := fun _ member => nomatch member
  identifiers := List.nodup_nil

theorem Fits.push {pool : BufferPool} (fits : pool.Fits graph) {tensor : String}
    (absent : pool.find? tensor = none) : (pool.push (pool.fresh graph tensor)).Fits graph := by
  refine ⟨?_, ?_, ?_, ?_, fits.identifiers⟩
  · intro buffer member
    rcases List.mem_append.mp member with earlier | last
    · exact fits.shapes buffer earlier
    · obtain rfl := List.mem_singleton.mp last
      rfl
  · rw [BufferPool.push, List.map_append, List.nodup_append]
    refine ⟨fits.tensors, List.nodup_singleton _, ?_⟩
    intro name member other last
    obtain ⟨buffer, present, rfl⟩ := List.mem_map.mp member
    obtain rfl := List.mem_singleton.mp last
    intro same
    exact List.find?_eq_none.mp absent buffer present (decide_eq_true same)
  · have distinct := fits.names.concat (freshName_not_mem pool.names
      ((roleOf graph tensor).stem ++ Text.identifier tensor))
    rw [BufferPool.names, BufferPool.push, List.map_append, List.map_singleton,
      ← List.concat_eq_append]
    exact distinct
  · intro buffer member
    rcases List.mem_append.mp member with earlier | last
    · exact fits.stems buffer earlier
    · obtain rfl := List.mem_singleton.mp last
      obtain ⟨rest, named⟩ := freshName_eq_append pool.names
        ((roleOf graph tensor).stem ++ Text.identifier tensor)
      refine ⟨Text.identifier tensor ++ rest, ?_⟩
      rw [← String.append_assoc]
      exact named

theorem Fits.identify {pool : BufferPool} (fits : pool.Fits graph) (node : Node) :
    (pool.identify node).Fits graph := by
  refine ⟨fits.shapes, fits.tensors, fits.names, fits.stems, ?_⟩
  rw [BufferPool.identify, List.map_append, List.map_singleton, ← List.concat_eq_append]
  exact fits.identifiers.concat (freshName_not_mem _ _)

theorem Extends.fits (extends_ : Extends graph before after) (fits : before.Fits graph) :
    after.Fits graph := by
  induction extends_ with
  | refl => exact fits
  | push _ absent ih => exact ih.push absent
  | named _ _ ih => exact ih.identify _

/-- A buffer has the role that the graph gives its tensor. -/
theorem Extends.role {graph : Graph} {pool : BufferPool} (filled : Extends graph .empty pool) :
    ∀ buffer ∈ pool.buffers, buffer.role = roleOf graph buffer.tensor := by
  induction filled with
  | refl => exact fun _ member => nomatch member
  | push _ _ ih =>
    intro buffer member
    rcases List.mem_append.mp member with earlier | last
    · exact ih buffer earlier
    · rw [List.mem_singleton.mp last]
      rfl
  | named _ _ ih => exact ih

/-- The network owns what is neither an input nor an output. -/
theorem Extends.isOwned {graph : Graph} {pool : BufferPool} (filled : Extends graph .empty pool)
    {buffer : Buffer} (member : buffer ∈ pool.buffers)
    (noInput : graph.isInput buffer.tensor = false)
    (noOutput : graph.isOutput buffer.tensor = false) : buffer.isOwned = true := by
  have role := filled.role buffer member
  rw [roleOf, noInput, noOutput] at role
  exact decide_eq_true role

/-- Buffers of the same name are the same buffer. -/
theorem Fits.eq_of_name {pool : BufferPool} (fits : pool.Fits graph) {first second : Buffer}
    (firstMember : first ∈ pool.buffers) (secondMember : second ∈ pool.buffers)
    (same : first.name = second.name) : first = second :=
  List.inj_on_of_nodup_map fits.names firstMember secondMember same

/-- An identifier is that of a single node. -/
theorem Fits.id_eq {pool : BufferPool} (fits : pool.Fits graph) {id other : Nat}
    {identifier : String} (found : pool.layers.lookup id = some identifier)
    (again : pool.layers.lookup other = some identifier) : id = other := by
  have listed : ∀ {id : Nat}, pool.layers.lookup id = some identifier →
      (id, identifier) ∈ pool.layers := by
    intro id found
    obtain ⟨before, after, same, -⟩ := List.lookup_eq_some_iff.mp found
    exact same ▸ List.mem_append_right _ (List.mem_cons_self ..)
  exact congrArg Prod.fst
    (List.inj_on_of_nodup_map fits.identifiers (listed found) (listed again) rfl)

/-- The buffers of different tensors have different names. -/
theorem Fits.nodup_names {pool : BufferPool} (fits : pool.Fits graph) {buffers : List Buffer}
    (assigned : ∀ buffer ∈ buffers, pool.find? buffer.tensor = some buffer)
    (tensors : (buffers.map Buffer.tensor).Nodup) : (buffers.map Buffer.name).Nodup :=
  tensors.of_map.map_on fun first firstMember second secondMember same =>
    fits.eq_of_name (tensor_of_find? (assigned first firstMember)).1
      (tensor_of_find? (assigned second secondMember)).1 same

/-! ## Single assignments -/

theorem extends_assign (pool : BufferPool) (graph : Graph) (tensor : String) :
    Extends graph pool (pool.assign graph tensor) := by
  rw [assign]
  split
  · exact .refl
  · next absent => exact .push .refl absent

theorem extends_nameLayer (pool : BufferPool) (graph : Graph) (node : Node) :
    Extends graph pool (pool.nameLayer node) := by
  rw [nameLayer]
  split
  · exact .refl
  · next absent => exact .named .refl absent

/-- Asking for the buffer of a tensor assigns one, and afterwards the tensor has the buffer. -/
theorem buffer_yields_assign {tensor : String} {buffer : Buffer}
    (yields : ((BufferPool.buffer graph tensor).run before).Yields (buffer, after)) :
    after = before.assign graph tensor ∧ after.find? tensor = some buffer := by
  rw [BufferPool.buffer] at yields
  obtain ⟨pool, _, got, rest⟩ := Logged.Yields.of_state_bind yields
  cases Logged.Yields.of_pure got
  rw [assign]
  cases present : before.find? tensor with
  | some assigned =>
    rw [present] at rest
    cases Logged.Yields.of_pure rest
    exact ⟨rfl, present⟩
  | none =>
    rw [present] at rest
    obtain ⟨_, _, stored, rest⟩ := Logged.Yields.of_state_bind rest
    cases Logged.Yields.of_pure stored
    have found : (before.push (before.fresh graph tensor)).find? tensor =
        some (before.fresh graph tensor) := by
      rw [find?, BufferPool.push, List.find?_append, ← find?, present, Option.none_or]
      exact List.find?_cons_of_pos (decide_eq_true rfl)
    split at rest
    · cases Logged.Yields.of_pure (Logged.Yields.of_state_report (.of_state_report rest))
      exact ⟨rfl, found⟩
    · cases Logged.Yields.of_pure (Logged.Yields.of_state_report rest)
      exact ⟨rfl, found⟩

/-- Asking for the buffer of a tensor extends the pool, and afterwards the tensor has the buffer. -/
theorem buffer_yields {tensor : String} {buffer : Buffer}
    (yields : ((BufferPool.buffer graph tensor).run before).Yields (buffer, after)) :
    Extends graph before after ∧ after.find? tensor = some buffer := by
  obtain ⟨rfl, found⟩ := buffer_yields_assign yields
  exact ⟨extends_assign .., found⟩

/-- The pool holds the buffer of a tensor under a name. -/
def Refers (pool : BufferPool) (name tensor : String) : Prop :=
  ∃ buffer, pool.find? tensor = some buffer ∧ buffer.name = name

theorem Refers.name_eq {pool : BufferPool} {name other tensor : String}
    (refers : pool.Refers name tensor) (again : pool.Refers other tensor) : name = other := by
  obtain ⟨buffer, found, rfl⟩ := refers
  obtain ⟨same, present, rfl⟩ := again
  exact congrArg Buffer.name (Option.some.inj (found.symm.trans present))

/-- A name is that of a single tensor. -/
theorem Fits.tensor_eq {pool : BufferPool} (fits : pool.Fits graph) {name tensor other : String}
    (refers : pool.Refers name tensor) (again : pool.Refers name other) : tensor = other := by
  obtain ⟨first, firstFound, rfl⟩ := refers
  obtain ⟨second, secondFound, same⟩ := again
  obtain ⟨firstMember, rfl⟩ := tensor_of_find? firstFound
  obtain ⟨secondMember, rfl⟩ := tensor_of_find? secondFound
  rw [fits.eq_of_name secondMember firstMember same]

theorem Extends.refers (extends_ : Extends graph before after) {name tensor : String}
    (refers : before.Refers name tensor) : after.Refers name tensor := by
  obtain ⟨buffer, found, same⟩ := refers
  exact ⟨buffer, extends_.find? found, same⟩

/-- Asking for the identifier of a node chooses one, and afterwards the node has it. -/
theorem layerName_yields_nameLayer {node : Node} {identifier : String}
    (yields : ((BufferPool.layerName node).run before).Yields (identifier, after)) :
    after = before.nameLayer node ∧ after.layers.lookup node.id = some identifier := by
  rw [BufferPool.layerName] at yields
  obtain ⟨_, _, got, rest⟩ := Logged.Yields.of_state_bind yields
  cases Logged.Yields.of_pure got
  rw [nameLayer]
  cases present : before.layers.lookup node.id with
  | some chosen =>
    rw [present] at rest
    cases Logged.Yields.of_pure rest
    exact ⟨rfl, present⟩
  | none =>
    rw [present] at rest
    obtain ⟨_, _, stored, rest⟩ := Logged.Yields.of_state_bind rest
    cases Logged.Yields.of_pure stored
    cases Logged.Yields.of_pure rest
    refine ⟨rfl, ?_⟩
    rw [List.lookup_append, present, Option.none_or, List.lookup_cons_self]

/-- Asking for the identifier of a node extends the pool, and afterwards the node has it. -/
theorem layerName_yields {node : Node} {identifier : String}
    (yields : ((BufferPool.layerName node).run before).Yields (identifier, after)) :
    Extends graph before after ∧ after.layers.lookup node.id = some identifier := by
  obtain ⟨rfl, found⟩ := layerName_yields_nameLayer yields
  exact ⟨extends_nameLayer .., found⟩

/-- Asking for a buffer to be stored assigns one, also when it cannot be stored. -/
theorem storedBuffer_yields {tensor : String} {outcome : Except StorageError Buffer}
    (yields : ((BufferPool.storedBuffer graph tensor).run.run before).Yields (outcome, after)) :
    after = before.assign graph tensor ∧
      ∃ buffer, after.find? tensor = some buffer ∧ outcome = buffer.storable := by
  rw [BufferPool.storedBuffer, ExceptT.run_bind] at yields
  obtain ⟨_, middle, lifted, rest⟩ := Logged.Yields.of_state_bind yields
  obtain ⟨buffer, rfl, first⟩ := lifted.of_state_lift
  obtain ⟨assigned, found⟩ := buffer_yields_assign first
  obtain ⟨-, rfl⟩ := tensor_of_find? found
  suffices outcome = buffer.storable ∧ after = middle by
    obtain ⟨rfl, rfl⟩ := this
    exact ⟨assigned, buffer, found, rfl⟩
  rw [Buffer.storable]
  dsimp only at rest
  cases known : buffer.shape with
  | none =>
    rw [known] at rest
    cases Logged.Yields.of_pure rest
    exact ⟨rfl, rfl⟩
  | some shape =>
    rw [known] at rest
    dsimp only at rest
    split at rest
    · next unsupported =>
      cases Logged.Yields.of_pure rest
      exact ⟨(if_pos unsupported).symm, rfl⟩
    · next supported =>
      cases Logged.Yields.of_pure rest
      exact ⟨(if_neg supported).symm, rfl⟩

theorem of_storable_eq_ok {buffer stored : Buffer} (storable : buffer.storable = .ok stored) :
    stored = buffer ∧ ∃ shape, buffer.shape = some shape := by
  rw [Buffer.storable] at storable
  cases known : buffer.shape with
  | none =>
    rw [known] at storable
    cases storable
  | some shape =>
    rw [known] at storable
    dsimp only at storable
    split at storable
    · cases storable
    · exact ⟨(Except.ok.inj storable).symm, shape, rfl⟩

/-- A tensor whose buffer can be stored has a known shape. -/
theorem assigns_storedBuffer {tensor : String} {buffer : Buffer}
    (assigns : Assigns (BufferPool.storedBuffer graph tensor) before buffer after) :
    Extends graph before after ∧ after.find? tensor = some buffer ∧
      ∃ shape, buffer.shape = some shape := by
  obtain ⟨rfl, held, found, same⟩ := storedBuffer_yields assigns
  obtain ⟨rfl, known⟩ := of_storable_eq_ok same.symm
  exact ⟨extends_assign .., found, known⟩

end BufferPool

end StaticNet
