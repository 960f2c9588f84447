import Mathlib.Data.List.Forall2
import StaticNet.Proofs.Dict
import StaticNet.Proofs.Graph.View
import StaticNet.Proofs.Outcome
import StaticNet.Propagation.Fixpoint

/-! # Steady transfer functions

Knowing less about the inputs of a node, a built-in transfer function finds out the same or is
deferred; it never finds out anything else. It looks at the operator, the name and the attributes of
its node alone, and one that does not fold looks at the shapes of its inputs alone.
-/

namespace StaticNet

namespace Knowledge

/-- Less is known, or the same. -/
def AtMost (less more : Knowledge) : Prop := less = .unknown ∨ less = more

theorem AtMost.refl (knowledge : Knowledge) : knowledge.AtMost knowledge := .inr rfl

theorem AtMost.eq_of_isKnown {less more : Knowledge} (atMost : less.AtMost more)
    (known : less.isKnown = true) : less = more := by
  rcases atMost with rfl | same
  · cases known
  · exact same

theorem AtMost.antisymm {one other : Knowledge} (below : one.AtMost other)
    (above : other.AtMost one) : one = other := by
  rcases below with rfl | same
  · rcases above with unknown | same
    · exact unknown.symm
    · exact same.symm
  · exact same

theorem AtMost.forgetValue {less more : Knowledge} (atMost : less.AtMost more) :
    less.forgetValue.AtMost more.forgetValue := by
  rcases atMost with rfl | rfl
  · exact .inl rfl
  · exact .refl _

/-- A known value is all that there is to know. -/
theorem eq_exact {knowledge : Knowledge} {value : Tensor} (known : knowledge.value? = some value) :
    knowledge = .exact value := by
  cases knowledge with
  | exact other => rw [Option.some.inj known]
  | _ => cases known

theorem shape?_forgetValue (knowledge : Knowledge) :
    knowledge.forgetValue.shape? = knowledge.shape? := by
  cases knowledge with
  | exact value =>
    rw [Knowledge.forgetValue, Knowledge.shape?]
    cases value.shape <;> rfl
  | _ => rfl

theorem isKnown_forgetValue (knowledge : Knowledge) :
    knowledge.forgetValue.isKnown = knowledge.isKnown := by
  cases knowledge with
  | exact value =>
    rw [Knowledge.forgetValue]
    cases value.shape <;> rfl
  | _ => rfl

theorem forgetValue_forgetValue (knowledge : Knowledge) :
    knowledge.forgetValue.forgetValue = knowledge.forgetValue := by
  cases knowledge with
  | exact value =>
    rw [Knowledge.forgetValue]
    cases value.shape <;> rfl
  | _ => rfl

end Knowledge

/-- A node without its inputs and without what is stored with them. -/
def Node.task (node : Node) : Node :=
  { node with inputs := [], constants := .empty, parents := [], children := [] }

namespace Transfer

variable {α β : Type}

/-! ## Computations from knowledge -/

/-- Told less, a computation finds out the same or is deferred. -/
def Steady (compute : List Knowledge → Except TransferError α) : Prop :=
  ∀ fewer more, List.Forall₂ Knowledge.AtMost fewer more →
    compute fewer = compute more ∨ ∃ cause, compute fewer = .error cause ∧ cause.isDeferral = true

/-- A computation does not look at values. -/
def Blind (compute : List Knowledge → Except TransferError α) : Prop :=
  ∀ inputs, compute (inputs.map Knowledge.forgetValue) = compute inputs

namespace Steady

theorem of_length {compute : List Knowledge → Except TransferError α}
    (same : ∀ fewer more, fewer.length = more.length → compute fewer = compute more) :
    Steady compute := fun fewer more atMost => .inl (same fewer more atMost.length_eq)

theorem const (result : Except TransferError α) : Steady fun _ => result :=
  of_length fun _ _ _ => rfl

theorem bind {first : List Knowledge → Except TransferError α}
    {next : α → List Knowledge → Except TransferError β} (steady : Steady first)
    (rest : ∀ value, Steady (next value)) :
    Steady fun inputs => first inputs >>= fun value => next value inputs := by
  intro fewer more atMost
  dsimp only
  rcases steady fewer more atMost with same | ⟨cause, deferred, deferral⟩
  · rw [same]
    cases first more with
    | error cause => exact .inl rfl
    | ok value => exact rest value fewer more atMost
  · exact .inr ⟨cause, by rw [deferred]; rfl, deferral⟩

theorem mapM {step : Nat → List Knowledge → Except TransferError α}
    (steady : ∀ index, Steady (step index)) (indices : List Nat) :
    Steady fun inputs => indices.mapM fun index => step index inputs := by
  induction indices with
  | nil => exact const _
  | cons index rest ih =>
    simp only [List.mapM_cons]
    exact (steady index).bind fun value => ih.bind fun values => const _

end Steady

/-- What is known about an input is the same, or nothing is known about it with less knowledge. -/
private theorem getD_atMost {fewer more : List Knowledge}
    (atMost : List.Forall₂ Knowledge.AtMost fewer more) (index : Nat) :
    (fewer.getD index .unknown).AtMost (more.getD index .unknown) := by
  induction atMost generalizing index with
  | nil => exact .refl _
  | cons first _ ih =>
    cases index with
    | zero => exact first
    | succ index => exact ih index

theorem steady_knownAt (index : Nat) : Steady fun inputs => knownAt inputs index := by
  intro fewer more atMost
  dsimp only
  rcases getD_atMost atMost index with unknown | same
  · refine .inr ⟨.unknownInput index, ?_, rfl⟩
    rw [knownAt, unknown]
    rfl
  · refine .inl ?_
    rw [knownAt, knownAt, same]

/-- A computation from the value of an input is deferred as long as the value is not known. -/
theorem steady_valueOf? (index : Nat) (what : String)
    {compute : List Knowledge → Except TransferError α}
    (deferred : ∀ inputs, valueOf? inputs index = none →
      compute inputs = .error (.unknownOperand what))
    (settled : ∀ one other, valueOf? one index = valueOf? other index →
      compute one = compute other) : Steady compute := by
  intro fewer more atMost
  rcases getD_atMost atMost index with unknown | same
  · refine .inr ⟨.unknownOperand what, deferred fewer ?_, rfl⟩
    rw [valueOf?, unknown]
    rfl
  · refine .inl (settled fewer more ?_)
    rw [valueOf?, valueOf?, same]

theorem steady_attributeOrInput (what name : String) (node : Node) :
    Steady fun inputs => attributeOrInput what name node inputs := by
  by_cases given : (node.attributes.ints name).isEmpty = true
  · simp only [attributeOrInput, given, if_true]
    refine steady_valueOf? 1 what (fun inputs absent => ?_) fun one other same => ?_
    · rw [absent]
    · rw [same]
  · simp only [attributeOrInput, given, Bool.false_eq_true, if_false]
    exact .const _

/-- Forgetting values keeps the dimensions of what is known. -/
theorem knownAt_map_forgetValue (inputs : List Knowledge) (index : Nat) :
    knownAt (inputs.map Knowledge.forgetValue) index =
      (knownAt inputs index).map fun known => (known.1.forgetValue, known.2) := by
  have same : (inputs.map Knowledge.forgetValue).getD index .unknown =
      (inputs.getD index .unknown).forgetValue := by
    rw [List.getD_eq_getElem?_getD, List.getD_eq_getElem?_getD, List.getElem?_map]
    cases inputs[index]? <;> rfl
  rw [knownAt, knownAt, same, Knowledge.dims?, Knowledge.dims?, Knowledge.isKnown_forgetValue,
    Knowledge.shape?_forgetValue]
  split <;> rfl

/-! ## Families of transfer functions -/

section families

variable (next : Knowledge × Shape → Except TransferError α)
  (nextTwo : Knowledge × Shape → Knowledge × Shape → Except TransferError α)

theorem steady_first : Steady fun inputs => knownAt inputs 0 >>= next :=
  (steady_knownAt 0).bind fun _ => .const _

theorem steady_firstTwo : Steady fun inputs =>
    knownAt inputs 0 >>= fun left => knownAt inputs 1 >>= nextTwo left :=
  (steady_knownAt 0).bind fun _ => steady_knownAt 1 |>.bind fun _ => .const _

theorem steady_listed (what name : String) (node : Node)
    (nextList : Knowledge × Shape → List Int64 → Except TransferError α) :
    Steady fun inputs =>
      knownAt inputs 0 >>= fun known => attributeOrInput what name node inputs >>= nextList known :=
  (steady_knownAt 0).bind fun _ => (steady_attributeOrInput what name node).bind fun _ => .const _

theorem blind_first (blind : ∀ known dims, next (known.forgetValue, dims) = next (known, dims)) :
    Blind fun inputs => knownAt inputs 0 >>= next := by
  intro inputs
  dsimp only
  rw [knownAt_map_forgetValue]
  cases knownAt inputs 0 with
  | error cause => rfl
  | ok known => exact blind known.1 known.2

theorem blind_firstTwo (blind : ∀ left leftDims right rightDims,
      nextTwo (left.forgetValue, leftDims) (right.forgetValue, rightDims) =
        nextTwo (left, leftDims) (right, rightDims)) :
    Blind fun inputs =>
      knownAt inputs 0 >>= fun left => knownAt inputs 1 >>= nextTwo left := by
  intro inputs
  dsimp only
  rw [knownAt_map_forgetValue, knownAt_map_forgetValue]
  cases knownAt inputs 0 with
  | error cause => rfl
  | ok left =>
    cases knownAt inputs 1 with
    | error cause => rfl
    | ok right => exact blind left.1 left.2 right.1 right.2

end families

theorem steady_reshape (node : Node) : Steady (reshape node) := by
  refine (steady_knownAt 0).bind fun ⟨input, shape⟩ => ?_
  refine steady_valueOf? 1 "reshape target" (fun inputs absent => ?_) fun one other same => ?_
  · simp only [absent]
    rfl
  · simp only [same]

theorem steady_concat (node : Node) : Steady (concat node) := by
  have known : Steady fun inputs => (List.range inputs.length).mapM (knownAt inputs) := by
    intro fewer more atMost
    dsimp only
    rw [atMost.length_eq]
    exact Steady.mapM steady_knownAt (List.range more.length) fewer more atMost
  exact known.bind fun _ => .of_length fun fewer more same => by rw [same]

/-! ## The built-in functions -/

/-- A transfer function is steady, it looks at the task of its node alone, and one that does not
fold does not look at values. -/
structure Regular (transfer : Transfer) : Prop where
  steady : ∀ node, Steady (transfer.apply node)
  blind : transfer.folds = false → ∀ node, Blind (transfer.apply node)
  plain : ∀ node inputs, transfer.apply node.task inputs = transfer.apply node inputs

theorem Regular.of_dims {apply : Node → List Knowledge → TransferResult}
    (steady : ∀ node, Steady (apply node)) (blind : ∀ node, Blind (apply node))
    (plain : ∀ node inputs, apply node.task inputs = apply node inputs) :
    Regular ⟨false, apply⟩ := ⟨steady, fun _ => blind, plain⟩

theorem Regular.of_values {apply : Node → List Knowledge → TransferResult}
    (steady : ∀ node, Steady (apply node))
    (plain : ∀ node inputs, apply node.task inputs = apply node inputs) :
    Regular ⟨true, apply⟩ := ⟨steady, nofun, plain⟩

private theorem regular_pool : Regular ⟨false, pool⟩ :=
  .of_dims (fun _ => steady_first _) (fun _ => blind_first _ fun _ _ => rfl) fun _ _ => rfl

private theorem regular_convolution : Regular ⟨false, convolution⟩ :=
  .of_dims (fun _ => steady_firstTwo _) (fun _ => blind_firstTwo _ fun _ _ _ _ => rfl)
    fun _ _ => rfl

private theorem regular_globalPool : Regular ⟨false, globalPool⟩ :=
  .of_dims (fun _ => steady_first _) (fun _ => blind_first _ fun _ _ => rfl) fun _ _ => rfl

private theorem regular_transpose : Regular ⟨false, transpose⟩ :=
  .of_dims (fun _ => steady_first _) (fun _ => blind_first _ fun _ _ => rfl) fun _ _ => rfl

private theorem regular_flatten : Regular ⟨false, flatten⟩ :=
  .of_dims (fun _ => steady_first _) (fun _ => blind_first _ fun _ _ => rfl) fun _ _ => rfl

private theorem regular_matMul : Regular ⟨false, matMul⟩ :=
  .of_dims (fun _ => steady_firstTwo _) (fun _ => blind_firstTwo _ fun _ _ _ _ => rfl)
    fun _ _ => rfl

private theorem regular_gemm : Regular ⟨false, gemm⟩ :=
  .of_dims (fun _ => steady_firstTwo _) (fun _ => blind_firstTwo _ fun _ _ _ _ => rfl)
    fun _ _ => rfl

private theorem regular_sameShape : Regular ⟨false, sameShape⟩ := by
  refine .of_dims (fun _ => steady_first _) (fun _ => blind_first _ fun known _ => ?_)
    fun _ _ => rfl
  dsimp only
  rw [known.shape?_forgetValue]

private theorem regular_dropout : Regular ⟨false, dropout⟩ := by
  refine .of_dims (fun _ => steady_first _) (fun _ => blind_first _ fun known _ => ?_)
    fun _ _ => rfl
  dsimp only
  rw [known.shape?_forgetValue]

private theorem regular_pointwise (op : Binary64 → Binary64 → Binary64) :
    Regular ⟨true, pointwise op⟩ :=
  .of_values (fun _ => steady_firstTwo _) fun _ _ => rfl

private theorem regular_unsqueeze : Regular ⟨true, unsqueeze⟩ :=
  .of_values (fun node => steady_listed _ _ node _) fun _ _ => rfl

/-- The built-in transfer functions are regular. -/
theorem regular_builtin {op : String} {transfer : Transfer}
    (found : Transfer.builtin.get? op = some transfer) : transfer.Regular := by
  have member := Dict.mem_of_get?_ofList found
  suffices all : List.Forall (fun entry : String × Transfer => entry.2.Regular) _ from
    List.forall_iff_forall_mem.mp all _ member
  exact ⟨regular_pool, regular_pool, regular_convolution, regular_globalPool, regular_globalPool,
    regular_transpose, regular_unsqueeze,
    .of_values (fun _ => steady_first _) fun _ _ => rfl,
    .of_values (fun _ => steady_firstTwo _) fun _ _ => rfl,
    .of_values steady_concat fun _ _ => rfl, .of_values steady_reshape fun _ _ => rfl,
    regular_flatten, .of_values (fun node => steady_listed _ _ node _) fun _ _ => rfl,
    regular_matMul, regular_gemm, regular_pointwise _, regular_pointwise _, regular_pointwise _,
    regular_pointwise _, regular_sameShape, regular_sameShape, regular_sameShape,
    regular_sameShape, regular_sameShape, regular_sameShape, regular_sameShape, regular_sameShape,
    regular_dropout, .of_values (fun _ => .const _) fun _ _ => rfl⟩

/-- A computation from the dimensions of the first input finds nothing out while they are not
known. -/
private theorem isKnown_of_first {next : Knowledge × Shape → TransferResult}
    {inputs results : List Knowledge} (done : (knownAt inputs 0 >>= next) = .ok results) :
    (inputs.getD 0 .unknown).isKnown = true := by
  obtain ⟨known, read, -⟩ := Outcome.bind_eq_ok_iff.mp done
  rw [knownAt, Knowledge.dims?] at read
  split at read
  · next found =>
    split at found
    · assumption
    · cases found
  · cases read

/-- An operator that may pass its first input on finds nothing out without it. -/
theorem exists_passing {op : String}
    (passes : op ∈ ["Unsqueeze", "Dropout", "Identity", "Reshape"]) :
    ∃ transfer, Transfer.builtin.get? op = some transfer ∧
      ∀ node inputs results, transfer.apply node inputs = .ok results →
        (inputs.getD 0 .unknown).isKnown = true := by
  simp only [List.mem_cons, List.not_mem_nil, or_false] at passes
  rcases passes with rfl | rfl | rfl | rfl
  · exact ⟨⟨true, unsqueeze⟩, rfl, fun _ _ _ done => isKnown_of_first done⟩
  · exact ⟨⟨false, dropout⟩, rfl, fun _ _ _ done => isKnown_of_first done⟩
  · exact ⟨⟨false, sameShape⟩, rfl, fun _ _ _ done => isKnown_of_first done⟩
  · exact ⟨⟨true, reshape⟩, rfl, fun _ _ _ done => isKnown_of_first done⟩

end Transfer

end StaticNet
