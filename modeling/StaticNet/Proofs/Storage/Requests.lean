import Mathlib.Data.List.Induction
import StaticNet.Proofs.Storage.Assignment

/-! # Sequences of requests

A pool is asked for buffers and layer identifiers in any order, and the graph may change between two
requests. Every request has the answer that the pool would give in the end, so that a repeated one
has the first answer. Each name was found by a search among the earlier ones, so that names differ,
and the buffers stand in the order in which they were first asked for.
-/

namespace StaticNet

/-! ## Lists that grow at the end -/

section growing

variable {α : Type}

/-- Each entry of a list goes with the entries before it. -/
def InTurn (goes : List α → α → Prop) (entries : List α) : Prop :=
  ∀ index entry, entries[index]? = some entry → goes (entries.take index) entry

namespace InTurn

variable {goes wider : List α → α → Prop} {entries : List α}

theorem concat (inTurn : InTurn goes entries) {last : α} (final : goes entries last) :
    InTurn goes (entries ++ [last]) := by
  intro index entry found
  rcases Nat.lt_trichotomy index entries.length with inside | rfl | outside
  · rw [List.getElem?_append_left inside] at found
    rw [List.take_append_of_le_length (Nat.le_of_lt inside)]
    exact inTurn index entry found
  · rw [List.getElem?_concat_length, Option.some.injEq] at found
    rw [List.take_left, ← found]
    exact final
  · rw [List.getElem?_eq_none (by rw [List.length_append, List.length_singleton]; omega)] at found
    cases found

theorem mono (inTurn : InTurn goes entries)
    (implies : ∀ {earlier entry}, goes earlier entry → wider earlier entry) :
    InTurn wider entries := fun index entry found => implies (inTurn index entry found)

/-- What each entry has with the earlier ones, the entries have pairwise. -/
theorem pairwise {relation : α → α → Prop} (inTurn : InTurn goes entries)
    (apart : ∀ {earlier entry}, goes earlier entry → ∀ other ∈ earlier, relation other entry) :
    entries.Pairwise relation := by
  refine List.pairwise_iff_getElem.mpr fun first second firstInside secondInside before => ?_
  refine apart (inTurn second _ (List.getElem?_eq_getElem secondInside)) _ ?_
  exact List.mem_take_iff_getElem.mpr ⟨first, by omega, rfl⟩

theorem forall_mem {good : α → Prop} (inTurn : InTurn goes entries)
    (implies : ∀ {earlier entry}, goes earlier entry → good entry) :
    ∀ entry ∈ entries, good entry := by
  intro entry member
  obtain ⟨index, found⟩ := List.mem_iff_getElem?.mp member
  exact implies (inTurn index entry found)

end InTurn

theorem filterMap_concat_of_none {β : Type} {key? : β → Option α} {last : β}
    (hasNot : key? last = none) (entries : List β) :
    (entries ++ [last]).filterMap key? = entries.filterMap key? := by
  rw [List.filterMap_append, List.filterMap_cons_none hasNot, List.filterMap_nil, List.append_nil]

variable [DecidableEq α]

/-- An entry is listed at its first occurrence. -/
theorem eraseDups_concat (entries : List α) (last : α) :
    (entries ++ [last]).eraseDups =
      if last ∈ entries.eraseDups then entries.eraseDups else entries.eraseDups ++ [last] := by
  rw [List.eraseDups_append]
  by_cases listed : last ∈ entries
  · rw [if_pos (List.mem_eraseDups.mpr listed)]
    simp [List.removeAll, listed]
  · have new : [last].removeAll entries = [last] := by simp [List.removeAll, listed]
    rw [if_neg fun member => listed (List.mem_eraseDups.mp member), new]
    rfl

/-- A key is listed at the first entry that has it. -/
theorem eraseDups_filterMap_concat {β : Type} {key? : β → Option α} {last : β} {key : α}
    (has : key? last = some key) (entries : List β) :
    ((entries ++ [last]).filterMap key?).eraseDups =
      if key ∈ (entries.filterMap key?).eraseDups then (entries.filterMap key?).eraseDups
      else (entries.filterMap key?).eraseDups ++ [key] := by
  rw [List.filterMap_append, List.filterMap_cons_some has, List.filterMap_nil, eraseDups_concat]

theorem nodup_eraseDups (entries : List α) : entries.eraseDups.Nodup := by
  induction entries using List.reverseRecOn with
  | nil => exact List.nodup_nil
  | append_singleton entries last ih =>
    rw [eraseDups_concat]
    split
    · exact ih
    · next unlisted => exact List.concat_eq_append ▸ ih.concat unlisted

end growing

/-! ## Requests and answers -/

/-- What a pool is asked for. The graph, and what a node holds besides its id, may differ from
request to request. -/
inductive Request where
  | buffer (graph : Graph) (tensor : String)
  | storedBuffer (graph : Graph) (tensor : String)
  | layerName (node : Node)

/-- The answer to a request. -/
inductive Answer where
  | buffer (buffer : Buffer)
  | storedBuffer (outcome : Except StorageError Buffer)
  | layerName (identifier : String)

namespace Request

/-- Ask a pool. -/
def ask : Request → Allocating Answer
  | .buffer graph tensor => return .buffer (← BufferPool.buffer graph tensor)
  | .storedBuffer graph tensor =>
      return .storedBuffer (← (BufferPool.storedBuffer graph tensor).run)
  | .layerName node => return .layerName (← BufferPool.layerName node)

/-- The tensor for which a buffer is asked. -/
def tensor? : Request → Option String
  | .buffer _ tensor => some tensor
  | .storedBuffer _ tensor => some tensor
  | .layerName _ => none

/-- The id of the node for which an identifier is asked. -/
def nodeId? : Request → Option Nat
  | .buffer _ _ => none
  | .storedBuffer _ _ => none
  | .layerName node => some node.id

/-- The second request asks for the same as the first one, perhaps of another graph or of a node of
which only the id has stayed. -/
def Repeats : Request → Request → Prop
  | .buffer _ tensor, .buffer _ other => tensor = other
  | .storedBuffer _ tensor, .storedBuffer _ other => tensor = other
  | .layerName node, .layerName other => node.id = other.id
  | _, _ => False

/-- The pool after a request. -/
def extend (pool : BufferPool) : Request → BufferPool
  | .buffer graph tensor => pool.assign graph tensor
  | .storedBuffer graph tensor => pool.assign graph tensor
  | .layerName node => pool.nameLayer node

/-- The answer that a pool gives as it is, if it has one. -/
def answerIn? (pool : BufferPool) : Request → Option Answer
  | .buffer _ tensor => (pool.find? tensor).map .buffer
  | .storedBuffer _ tensor => (pool.find? tensor).map fun buffer => .storedBuffer buffer.storable
  | .layerName node => (pool.layers.lookup node.id).map .layerName

end Request

/-! ## Single requests -/

namespace BufferPool

variable {before after : BufferPool}

/-- A request extends the pool, which then has its answer. -/
theorem ask_yields {request : Request} {answer : Answer}
    (yields : (request.ask.run before).Yields (answer, after)) :
    after = request.extend before ∧ request.answerIn? after = some answer := by
  cases request with
  | buffer graph tensor =>
    obtain ⟨buffer, middle, asked, rest⟩ := Logged.Yields.of_state_bind yields
    cases Logged.Yields.of_pure rest
    obtain ⟨extended, found⟩ := buffer_yields_assign asked
    exact ⟨extended, by rw [Request.answerIn?, found, Option.map_some]⟩
  | storedBuffer graph tensor =>
    obtain ⟨outcome, middle, asked, rest⟩ := Logged.Yields.of_state_bind yields
    cases Logged.Yields.of_pure rest
    obtain ⟨extended, buffer, found, rfl⟩ := storedBuffer_yields asked
    exact ⟨extended, by rw [Request.answerIn?, found, Option.map_some]⟩
  | layerName node =>
    obtain ⟨identifier, middle, asked, rest⟩ := Logged.Yields.of_state_bind yields
    cases Logged.Yields.of_pure rest
    obtain ⟨extended, found⟩ := layerName_yields_nameLayer asked
    exact ⟨extended, by rw [Request.answerIn?, found, Option.map_some]⟩

theorem find?_extend {pool : BufferPool} {tensor : String} {buffer : Buffer} (request : Request)
    (found : pool.find? tensor = some buffer) :
    (request.extend pool).find? tensor = some buffer := by
  cases request with
  | buffer graph other => exact (extends_assign pool graph other).find? found
  | storedBuffer graph other => exact (extends_assign pool graph other).find? found
  | layerName node =>
    rw [Request.extend, nameLayer]
    split
    · exact found
    · exact found

theorem lookup_extend {pool : BufferPool} {id : Nat} {identifier : String} (request : Request)
    (found : pool.layers.lookup id = some identifier) :
    (request.extend pool).layers.lookup id = some identifier := by
  cases request with
  | buffer graph other => exact (extends_assign pool graph other).lookup found
  | storedBuffer graph other => exact (extends_assign pool graph other).lookup found
  | layerName node =>
    rw [Request.extend, nameLayer]
    split
    · exact found
    · rw [identify, List.lookup_append, found, Option.some_or]

/-- An answer that a pool has stays. -/
theorem answerIn?_extend {pool : BufferPool} {request : Request} {answer : Answer}
    (other : Request) (found : request.answerIn? pool = some answer) :
    request.answerIn? (other.extend pool) = some answer := by
  cases request with
  | buffer graph tensor =>
    obtain ⟨buffer, present, rfl⟩ := Option.map_eq_some_iff.mp found
    rw [Request.answerIn?, find?_extend other present, Option.map_some]
  | storedBuffer graph tensor =>
    obtain ⟨buffer, present, rfl⟩ := Option.map_eq_some_iff.mp found
    rw [Request.answerIn?, find?_extend other present, Option.map_some]
  | layerName node =>
    obtain ⟨identifier, present, rfl⟩ := Option.map_eq_some_iff.mp found
    rw [Request.answerIn?, lookup_extend other present, Option.map_some]

theorem answerIn?_foldl_extend {pool : BufferPool} {request : Request} {answer : Answer}
    (found : request.answerIn? pool = some answer) (others : List Request) :
    request.answerIn? (others.foldl Request.extend pool) = some answer := by
  induction others generalizing pool with
  | nil => exact found
  | cons other others ih => exact ih (answerIn?_extend other found)

/-! ## Sequences of requests -/

/-- Over a sequence of requests each extends the pool, and the pool in the end has the answers to
all of them. -/
theorem mapM_ask_yields {requests : List Request} {answers : List Answer}
    (yields : ((requests.mapM Request.ask).run before).Yields (answers, after)) :
    after = requests.foldl Request.extend before ∧
      answers.map some = requests.map (Request.answerIn? after) := by
  induction requests generalizing before answers with
  | nil =>
    cases Logged.Yields.of_pure yields
    exact ⟨rfl, rfl⟩
  | cons request rest ih =>
    rw [List.mapM_cons] at yields
    obtain ⟨answer, middle, asked, yields⟩ := Logged.Yields.of_state_bind yields
    obtain ⟨others, last, askedRest, yields⟩ := Logged.Yields.of_state_bind yields
    cases Logged.Yields.of_pure yields
    obtain ⟨rfl, found⟩ := ask_yields asked
    obtain ⟨rfl, foundRest⟩ := ih askedRest
    exact ⟨rfl, by rw [List.map_cons, List.map_cons, answerIn?_foldl_extend found, foundRest]⟩

/-- The name of a buffer is found by a search among the names of the earlier ones. -/
def NamedAfter (earlier : List Buffer) (buffer : Buffer) : Prop :=
  Search (earlier.map Buffer.name) (buffer.role.stem ++ Text.identifier buffer.tensor) 0 buffer.name

/-- The identifier of a node for which one was requested is found by a search among the earlier
identifiers. -/
def IdentifiedAfter (requests : List Request) (earlier : List (Nat × String))
    (entry : Nat × String) : Prop :=
  ∃ node, Request.layerName node ∈ requests ∧ node.id = entry.1 ∧
    Search (earlier.map Prod.snd) (Text.symbol node.name) 0 entry.2

/-- A pool has a buffer for each tensor and an identifier for each node that was requested, in the
order of the first requests, and found their names in that order. -/
structure Registers (pool : BufferPool) (requests : List Request) : Prop where
  tensors : pool.buffers.map Buffer.tensor = (requests.filterMap Request.tensor?).eraseDups
  nodes : pool.layers.map Prod.fst = (requests.filterMap Request.nodeId?).eraseDups
  buffersNamed : InTurn NamedAfter pool.buffers
  layersNamed : InTurn (IdentifiedAfter requests) pool.layers

namespace Registers

variable {pool : BufferPool} {requests : List Request}

theorem empty : Registers .empty [] := ⟨rfl, rfl, nofun, nofun⟩

theorem layersNamed_concat (registers : pool.Registers requests) (request : Request) :
    InTurn (IdentifiedAfter (requests ++ [request])) pool.layers :=
  registers.layersNamed.mono fun ⟨node, listed, rest⟩ =>
    ⟨node, List.mem_append_left _ listed, rest⟩

theorem assign (registers : pool.Registers requests) {request : Request} {tensor : String}
    (asks : request.tensor? = some tensor) (noNode : request.nodeId? = none) (graph : Graph) :
    (pool.assign graph tensor).Registers (requests ++ [request]) := by
  have tensors := eraseDups_filterMap_concat asks requests
  rw [← registers.tensors] at tensors
  have nodes : pool.layers.map Prod.fst =
      ((requests ++ [request]).filterMap Request.nodeId?).eraseDups := by
    rw [filterMap_concat_of_none noNode, registers.nodes]
  have layersNamed := registers.layersNamed_concat request
  rw [BufferPool.assign]
  split
  · next buffer found =>
    obtain ⟨member, rfl⟩ := tensor_of_find? found
    rw [if_pos (List.mem_map_of_mem member)] at tensors
    exact ⟨tensors.symm, nodes, registers.buffersNamed, layersNamed⟩
  · next absent =>
    have unlisted : tensor ∉ pool.buffers.map Buffer.tensor := by
      intro listed
      obtain ⟨buffer, member, same⟩ := List.mem_map.mp listed
      exact List.find?_eq_none.mp absent buffer member (decide_eq_true same)
    rw [if_neg unlisted] at tensors
    refine ⟨?_, nodes, registers.buffersNamed.concat (search_freshName _ _), layersNamed⟩
    rw [tensors, BufferPool.push, List.map_append, List.map_singleton]
    rfl

theorem nameLayer (registers : pool.Registers requests) (node : Node) :
    (pool.nameLayer node).Registers (requests ++ [.layerName node]) := by
  have nodes := eraseDups_filterMap_concat (rfl : (Request.layerName node).nodeId? = some node.id)
    requests
  rw [← registers.nodes] at nodes
  have tensors : pool.buffers.map Buffer.tensor =
      ((requests ++ [Request.layerName node]).filterMap Request.tensor?).eraseDups := by
    rw [filterMap_concat_of_none rfl, registers.tensors]
  have layersNamed := registers.layersNamed_concat (.layerName node)
  rw [BufferPool.nameLayer]
  split
  · next identifier found =>
    obtain ⟨before, after, same, -⟩ := List.lookup_eq_some_iff.mp found
    have listed : node.id ∈ pool.layers.map Prod.fst :=
      List.mem_map_of_mem (same ▸ List.mem_append_right _ (List.mem_cons_self ..))
    rw [if_pos listed] at nodes
    exact ⟨tensors, nodes.symm, registers.buffersNamed, layersNamed⟩
  · next absent =>
    have unlisted : node.id ∉ pool.layers.map Prod.fst := by
      intro listed
      obtain ⟨entry, member, same⟩ := List.mem_map.mp listed
      exact bne_iff_ne.mp (List.lookup_eq_none_iff.mp absent entry member) same.symm
    rw [if_neg unlisted] at nodes
    refine ⟨tensors, ?_, registers.buffersNamed, layersNamed.concat
      ⟨node, List.mem_append_right _ (List.mem_singleton_self _), rfl, search_freshName _ _⟩⟩
    rw [nodes, BufferPool.identify, List.map_append, List.map_singleton]

theorem extend (registers : pool.Registers requests) (request : Request) :
    (request.extend pool).Registers (requests ++ [request]) := by
  cases request with
  | buffer graph tensor => exact registers.assign rfl rfl graph
  | storedBuffer graph tensor => exact registers.assign rfl rfl graph
  | layerName node => exact registers.nameLayer node

theorem foldl_extend (registers : pool.Registers requests) (others : List Request) :
    (others.foldl Request.extend pool).Registers (requests ++ others) := by
  induction others generalizing pool requests with
  | nil => rwa [List.append_nil]
  | cons request others ih =>
    rw [List.append_cons]
    exact ih (registers.extend request)

theorem buffers_apart (registers : pool.Registers requests) :
    pool.buffers.Pairwise fun first second =>
      first.tensor ≠ second.tensor ∧ first.name ≠ second.name := by
  have tensors : (pool.buffers.map Buffer.tensor).Nodup :=
    registers.tensors ▸ nodup_eraseDups _
  refine (List.pairwise_map.mp tensors).and (registers.buffersNamed.pairwise ?_)
  intro earlier buffer search other member same
  exact search.not_mem (same ▸ List.mem_map_of_mem member)

theorem layers_apart (registers : pool.Registers requests) :
    pool.layers.Pairwise fun first second => first.1 ≠ second.1 ∧ first.2 ≠ second.2 := by
  have nodes : (pool.layers.map Prod.fst).Nodup := registers.nodes ▸ nodup_eraseDups _
  refine (List.pairwise_map.mp nodes).and (registers.layersNamed.pairwise ?_)
  rintro earlier entry ⟨node, -, -, search⟩ other member
  exact fun same => search.not_mem (same ▸ List.mem_map_of_mem member)

end Registers

/-- The answers of a new pool to a sequence of requests, and the pool in the end. -/
def serve (requests : List Request) (journal : Journal) : List Answer × BufferPool :=
  (((requests.mapM Request.ask).run .empty).run journal).1

/-- What requests to a new pool, their answers and the pool in the end have to do with each other.
The pool has the answer to every request, so that a request made again has the first answer. No two
buffers share a tensor or a name, and no two layers share a node or an identifier. -/
structure Serves (pool : BufferPool) (requests : List Request) (answers : List Answer) : Prop
    extends pool.Registers requests where
  answered : answers.map some = requests.map (Request.answerIn? pool)
  repeated : ∀ {first second : Nat} {request other : Request}, requests[first]? = some request →
    requests[second]? = some other → request.Repeats other → answers[first]? = answers[second]?
  buffersApart : pool.buffers.Pairwise fun first second =>
    first.tensor ≠ second.tensor ∧ first.name ≠ second.name
  layersApart : pool.layers.Pairwise fun first second => first.1 ≠ second.1 ∧ first.2 ≠ second.2
  names : ∀ buffer ∈ pool.buffers, IsName buffer.name
  identifiers : ∀ entry ∈ pool.layers, IsName entry.2

end BufferPool

theorem Request.Repeats.answerIn?_eq {request other : Request} (repeats : request.Repeats other)
    (pool : BufferPool) : request.answerIn? pool = other.answerIn? pool := by
  cases request <;> cases other <;> simp_all [Request.Repeats, Request.answerIn?]

namespace BufferPool

/-- Requests for the same have the same answer, since the pool in the end has a single one. -/
theorem answer_eq_of_repeats {pool : BufferPool} {requests : List Request} {answers : List Answer}
    (answered : answers.map some = requests.map (Request.answerIn? pool)) {first second : Nat}
    {request other : Request} (found : requests[first]? = some request)
    (again : requests[second]? = some other) (repeats : request.Repeats other) :
    answers[first]? = answers[second]? := by
  have answer {index : Nat} {request : Request} (found : requests[index]? = some request) :
      answers[index]?.map some = some (request.answerIn? pool) := by
    rw [← List.getElem?_map, answered, List.getElem?_map, found, Option.map_some]
  refine Option.map_injective (fun _ _ => Option.some.inj) ?_
  rw [answer found, answer again, repeats.answerIn?_eq]

/-- Over any sequence of requests to a new pool, whatever the graphs and nodes, every search for a
name ends, names are well formed and differ between tensors and between nodes, a repeated request
has the first answer, and each buffer is listed once, in the order of the first requests. -/
theorem serves_serve (requests : List Request) (journal : Journal) :
    (serve requests journal).2.Serves requests (serve requests journal).1 := by
  have yields : ((requests.mapM Request.ask).run .empty).Yields
    ((serve requests journal).1, (serve requests journal).2) := .of_run rfl
  obtain ⟨extended, answered⟩ := mapM_ask_yields yields
  have registers := Registers.empty.foldl_extend requests
  rw [← extended, List.nil_append] at registers
  exact ⟨registers, answered, answer_eq_of_repeats answered, registers.buffers_apart,
    registers.layers_apart,
    registers.buffersNamed.forall_mem fun search => search.isName (isName_stem _ _),
    registers.layersNamed.forall_mem fun ⟨_, _, _, search⟩ => search.isName (isName_symbol _)⟩

/-- Two tensors share an identifier, and a third has its first variant by nature. -/
example :
    let graph : Graph := ⟨"", [], [], [], .empty, .empty, ∅, ∅⟩
    (serve [.buffer graph "a.b", .buffer graph "a_b", .storedBuffer graph "a_b_1",
      .buffer graph "a.b"] []).2.names = ["buffer_a_b", "buffer_a_b_1", "buffer_a_b_1_1"] := by
  cbv

end BufferPool

end StaticNet
