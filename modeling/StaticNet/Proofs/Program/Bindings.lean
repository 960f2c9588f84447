import StaticNet.Proofs.Program.Lowering
import StaticNet.Proofs.Weights.Contents

/-! # Bound weights and written weights

The emitter and the weights writer visit the constants of the tasks independently. The emitter skips
a tensor that it has seen, the writer leaves out the elements of a tensor that it has written.
Followed in lockstep, they agree: the weights that are bound are those that are written with their
elements, in the same order, and a weight is bound as a bias exactly when it is written with a
single dimension field.
-/

namespace StaticNet

/-! ## What there is to agree on -/

/-- A weight of the generated code with its position in its table. -/
structure Binding where
  buffer : Buffer
  position : Nat
deriving DecidableEq

namespace Binding

/-- The draft that constructs the weight and binds it. -/
def draft (binding : Binding) : Draft :=
  Emission.bufferDraft .allocation binding.buffer
    (binding.buffer.bindingCall (Int64.ofNat binding.position))

/-- The bound tensor, and the table that it is bound into. -/
def target (binding : Binding) : String × BindingTable :=
  (binding.buffer.tensor, binding.buffer.bindingTable)

/-- The positions of a table that are used, in the order of the bindings. -/
def positions (table : BindingTable) (bindings : List Binding) : List Nat :=
  (bindings.filter fun binding => binding.buffer.bindingTable = table).map Binding.position

end Binding

/-- The draft binds a weight. -/
def Draft.binds (draft : Draft) : Bool := draft.call.template = "memory/kernel_allocation"

namespace WeightsEntry

/-- The table that a written tensor belongs to: a single dimension field makes it a bias. -/
def table (entry : WeightsEntry) : BindingTable :=
  if entry.dims.length = 1 then .biases else .kernels

/-- The tensors that are written with their elements, with their tables. -/
def written (entries : List WeightsEntry) : List (String × BindingTable) :=
  (entries.filter fun entry => !entry.repeated).map fun entry => (entry.tensor, entry.table)

end WeightsEntry

/-- No constant is an input of the graph, a declared output, or an output of a live node. -/
def Graph.ConstantsSeparate (graph : Graph) : Prop :=
  ∀ tensor, graph.isConstant tensor = true → graph.isInput tensor = false ∧
    graph.isOutput tensor = false ∧ ∀ node ∈ graph.live, tensor ∉ node.outputs

/-- The shape of a separate constant is that of its value. -/
theorem Graph.ConstantsSeparate.knownShape? {graph : Graph} (separate : graph.ConstantsSeparate)
    {tensor : String} {value : Tensor} (constant : graph.constants.get? tensor = some value) :
    graph.knownShape? tensor = value.shape := by
  obtain ⟨notInput, notOutput, -⟩ := separate tensor (isConstant_iff.mpr ⟨value, constant⟩)
  have unstated : graph.statedShape? tensor = none := by
    rw [statedShape?, Option.isNone_iff_eq_none.mp (Option.isSome_eq_false_iff.mp notInput),
      Option.isNone_iff_eq_none.mp (Option.isSome_eq_false_iff.mp notOutput)]
    rfl
  rw [Graph.knownShape?, unstated, constant]

namespace Weights

end Weights

namespace Emission

open Weights

variable {graph : Graph} {before after : BufferPool} {state next : Collection}
  {earlier : List String} {bindings : List Binding}

/-! ## One tensor -/

/-- The emitter has bound the weights that the writer has written. The tensors that stand earlier in
the weights file are the constants that were seen, and the positions of each table are used up in
order. -/
structure Tracks (graph : Graph) (pool : BufferPool) (earlier : List String)
    (bindings : List Binding) (state : Collection) : Prop where
  fits : pool.Fits graph
  drafts : state.drafts.filter Draft.binds = bindings.map Binding.draft
  positions : ∀ table, Binding.positions table bindings = List.range (state.bound table)
  buffers : ∀ binding ∈ bindings, pool.find? binding.buffer.tensor = some binding.buffer
  seen : ∀ tensor, graph.isConstant tensor = true → (tensor ∈ state.seen ↔ tensor ∈ earlier)
  ranked : ∀ tensor ∈ earlier, ∀ value, graph.constants.get? tensor = some value →
    ∃ fields, fields? value.dims = some fields

namespace Tracks

theorem empty (fits : before.Fits graph) : Tracks graph before [] [] .empty where
  fits := fits
  drafts := rfl
  positions := fun table => by cases table <;> rfl
  buffers := fun _ member => nomatch member
  seen := fun _ _ => Iff.rfl
  ranked := fun _ member => nomatch member

theorem extend (tracks : Tracks graph before earlier bindings state)
    (extended : before.Extends graph after) : Tracks graph after earlier bindings state :=
  { tracks with
    fits := extended.fits tracks.fits
    buffers := fun binding member => extended.find? (tracks.buffers binding member) }

/-- Further drafts that are about no buffer bind nothing. -/
theorem append (tracks : Tracks graph after earlier bindings state) {drafts : List Draft}
    (bufferless : ∀ draft ∈ drafts, draft.Bufferless) :
    Tracks graph after earlier bindings { state with drafts := state.drafts ++ drafts } := by
  have none : drafts.filter Draft.binds = [] := by
    refine List.filter_eq_nil_iff.mpr fun draft member binds => bufferless draft member ?_
    rw [of_decide_eq_true binds]
    simp [Draft.bufferTemplates]
  exact { tracks with
    drafts := by rw [List.filter_append, none, List.append_nil, tracks.drafts]
    positions := tracks.positions }

/-- A plain buffer of a tensor that is not constant binds nothing. -/
theorem hold (tracks : Tracks graph after earlier bindings state) {buffer : Buffer}
    (unknown : graph.isConstant buffer.tensor = false) :
    Tracks graph after earlier bindings (state.hold buffer buffer.allocationCode) :=
  { tracks with
    drafts := by
      rw [Collection.hold, List.filter_append, tracks.drafts]
      simp [Draft.binds, bufferDraft, Buffer.declarationCode, Buffer.allocationCode]
    positions := tracks.positions
    seen := by
      intro tensor constant
      rw [← tracks.seen tensor constant, Collection.hold, List.mem_cons, or_iff_right]
      rintro rfl
      rw [unknown] at constant
      cases constant }

/-- A constant that stands earlier in the weights file stands there once more. -/
theorem again (tracks : Tracks graph after earlier bindings state) {tensor : String}
    (member : tensor ∈ earlier) : Tracks graph after (tensor :: earlier) bindings state :=
  { tracks with
    seen := by
      intro other constant
      rw [tracks.seen other constant, List.mem_cons, or_iff_right_of_imp]
      rintro rfl
      exact member
    ranked := List.forall_mem_cons.mpr ⟨tracks.ranked tensor member, tracks.ranked⟩ }

/-- A weight that is bound to the next position of its table is written at this point. -/
theorem bind (tracks : Tracks graph after earlier bindings state) {buffer : Buffer}
    (found : after.find? buffer.tensor = some buffer)
    (fields : ∀ value, graph.constants.get? buffer.tensor = some value →
      ∃ fields, fields? value.dims = some fields) :
    Tracks graph after (buffer.tensor :: earlier)
      (bindings ++ [⟨buffer, state.bound buffer.bindingTable⟩])
      ((state.count buffer.bindingTable).hold buffer
        (buffer.bindingCall (Int64.ofNat (state.bound buffer.bindingTable)))) where
  fits := tracks.fits
  drafts := by
    have counted : (state.count buffer.bindingTable).drafts = state.drafts := by
      cases buffer.bindingTable <;> rfl
    rw [Collection.hold, List.filter_append, counted, tracks.drafts, List.map_append]
    simp [Draft.binds, bufferDraft, Buffer.declarationCode, Buffer.bindingCall, Binding.draft]
  positions := by
    intro table
    have grown : ((state.count buffer.bindingTable).hold buffer
        (buffer.bindingCall (Int64.ofNat (state.bound buffer.bindingTable)))).bound table =
          if buffer.bindingTable = table then state.bound table + 1 else state.bound table := by
      cases buffer.bindingTable <;> cases table <;> rfl
    rw [grown, Binding.positions, List.filter_append, List.map_append, ← Binding.positions,
      tracks.positions]
    split
    · next same => simp [same, List.range_succ]
    · next other => simp [other]
  buffers := by
    intro binding member
    rcases List.mem_append.mp member with old | new
    · exact tracks.buffers binding old
    · rw [List.mem_singleton.mp new, found]
  seen := by
    intro tensor constant
    have counted : (state.count buffer.bindingTable).seen = state.seen := by
      cases buffer.bindingTable <;> rfl
    rw [Collection.hold, List.mem_cons, List.mem_cons, counted, tracks.seen tensor constant]
  ranked := List.forall_mem_cons.mpr ⟨fields, tracks.ranked⟩

end Tracks

end Emission

namespace Compiler

open Weights

end Compiler

end StaticNet
