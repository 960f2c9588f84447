import StaticNet.Proofs.Propagation.Steadiness
import StaticNet.Proofs.Tensor.Reshape

/-! # Folding and shape inference

An operator that folds computes the shape of its result twice: as part of the value, and alone when
a value is missing. Both ways give the same shape: when the values of some of the inputs that a
folded value was computed from are forgotten, what is found out is the shape of that value.
-/

namespace StaticNet

namespace Tensor

variable {tensor indices folded : Tensor} {axes : List Int64} {axis : Int64}

theorem shape_of_unsqueeze (done : tensor.unsqueeze axes = .ok folded) :
    ∃ dims, tensor.dims.unsqueeze axes = .ok dims ∧ folded.shape = some dims := by
  obtain ⟨dims, found, result⟩ := Outcome.bind_eq_ok_iff.mp done
  cases result
  exact ⟨dims, Outcome.mapError_eq_ok_iff.mp found, rfl⟩

theorem shape_of_take (done : tensor.take indices axis = .ok folded) :
    ∃ position, Shape.axisIndex axis tensor.dims.length = .ok position ∧
      folded.shape = some (takenShape tensor.dims indices.dims position) := by
  obtain ⟨position, found, done⟩ := Outcome.bind_eq_ok_iff.mp done
  obtain ⟨chosen, -, done⟩ := Outcome.bind_eq_ok_iff.mp done
  obtain ⟨room, -, done⟩ := Outcome.bind_eq_ok_iff.mp done
  obtain ⟨slices, -, result⟩ := Outcome.bind_eq_ok_iff.mp done
  cases result
  exact ⟨position, Outcome.mapError_eq_ok_iff.mp found, rfl⟩

theorem shape_of_concat {tensors : List Tensor} (done : Tensor.concat tensors axis = .ok folded) :
    ∃ dims, Shape.concat (tensors.map Tensor.dims) axis = .ok dims ∧ folded.shape = some dims := by
  obtain ⟨dims, found, done⟩ := Outcome.bind_eq_ok_iff.mp done
  obtain ⟨position, -, done⟩ := Outcome.bind_eq_ok_iff.mp done
  obtain ⟨room, -, done⟩ := Outcome.bind_eq_ok_iff.mp done
  obtain ⟨slices, -, result⟩ := Outcome.bind_eq_ok_iff.mp done
  cases result
  exact ⟨dims, Outcome.mapError_eq_ok_iff.mp found, rfl⟩

theorem shape_of_zipBroadcast {op : Binary64 → Binary64 → Binary64} {result : Shape}
    {left right : Tensor} (done : zipBroadcast op result left right = .ok folded) :
    folded.shape = some result := by
  obtain ⟨room, -, done⟩ := Outcome.bind_eq_ok_iff.mp done
  obtain ⟨data, -, result⟩ := Outcome.bind_eq_ok_iff.mp done
  cases result
  rfl

end Tensor

namespace Knowledge

/-- The knowledge with the values at some positions forgotten. -/
def forgetAt (positions : List Nat) (inputs : List Knowledge) : List Knowledge :=
  inputs.mapIdx fun index knowledge =>
    if index ∈ positions then knowledge.forgetValue else knowledge

variable {positions : List Nat} {inputs : List Knowledge} {index : Nat}

@[simp] theorem length_forgetAt : (forgetAt positions inputs).length = inputs.length :=
  List.length_mapIdx

theorem getElem?_forgetAt : (forgetAt positions inputs)[index]? =
    inputs[index]?.map fun knowledge =>
      if index ∈ positions then knowledge.forgetValue else knowledge :=
  List.getElem?_mapIdx

theorem getD_forgetAt : (forgetAt positions inputs).getD index .unknown =
    if index ∈ positions then (inputs.getD index .unknown).forgetValue
    else inputs.getD index .unknown := by
  rw [List.getD_eq_getElem?_getD, List.getD_eq_getElem?_getD, getElem?_forgetAt]
  cases inputs[index]? with
  | none => exact (ite_self _).symm
  | some knowledge => rfl

/-- What does not depend on values is the same after some are forgotten. -/
theorem map_forgetAt {α : Type} {view : Knowledge → α}
    (same : ∀ knowledge : Knowledge, view knowledge.forgetValue = view knowledge) :
    (forgetAt positions inputs).map view = inputs.map view := by
  refine List.ext_getElem? fun index => ?_
  rw [List.getElem?_map, List.getElem?_map, getElem?_forgetAt, Option.map_map]
  refine congrArg (Option.map · _) (funext fun knowledge => ?_)
  dsimp only [Function.comp_apply]
  split
  · exact same knowledge
  · rfl

theorem value?_forgetValue (knowledge : Knowledge) : knowledge.forgetValue.value? = none := by
  cases knowledge with
  | exact value =>
    rw [Knowledge.forgetValue]
    cases value.shape <;> rfl
  | _ => rfl

theorem dims?_forgetValue (knowledge : Knowledge) :
    knowledge.forgetValue.dims? = knowledge.dims? := by
  rw [dims?, dims?, isKnown_forgetValue, shape?_forgetValue]

/-- Knowledge that consists of values only. -/
theorem eq_map_exact (valued : (inputs.filterMap value?).length = inputs.length) :
    inputs = (inputs.filterMap value?).map .exact := by
  have all : ∀ knowledge ∈ inputs, knowledge.value?.isSome = true :=
    List.filterMap_length_eq_length.mp valued
  clear valued
  induction inputs with
  | nil => rfl
  | cons knowledge rest ih =>
    obtain ⟨first, others⟩ := List.forall_mem_cons.mp all
    obtain ⟨value, known⟩ := Option.isSome_iff_exists.mp first
    rw [List.filterMap_cons_some known, List.map_cons, ← ih others, eq_exact known]

/-- Once a value is forgotten, not all inputs have one. -/
theorem length_filterMap_forgetAt_ne (member : index ∈ positions) (inside : index < inputs.length) :
    ((forgetAt positions inputs).filterMap value?).length ≠ inputs.length := by
  intro valued
  rw [← @length_forgetAt positions inputs] at valued
  have found : (forgetAt positions inputs)[index]? = some (inputs[index].forgetValue) := by
    rw [getElem?_forgetAt, List.getElem?_eq_getElem inside, Option.map_some, if_pos member]
  have kept := List.filterMap_length_eq_length.mp valued _ (List.mem_of_getElem? found)
  rw [value?_forgetValue] at kept
  cases kept

end Knowledge

namespace Transfer

open Knowledge

variable {positions : List Nat} {inputs : List Knowledge} {index : Nat} {known : Knowledge}
  {dims : Shape} {value : Tensor}

theorem knownAt_eq_ok_iff : knownAt inputs index = .ok (known, dims) ↔
    inputs.getD index .unknown = known ∧ known.dims? = some dims := by
  rw [knownAt]
  constructor
  · intro found
    split at found
    · next stated =>
      cases found
      exact ⟨rfl, stated⟩
    · cases found
  · rintro ⟨rfl, stated⟩
    rw [stated]

/-- Forgetting values keeps the dimensions of an input. -/
theorem knownAt_forgetAt (found : knownAt inputs index = .ok (known, dims)) :
    knownAt (forgetAt positions inputs) index =
      .ok (if index ∈ positions then known.forgetValue else known, dims) := by
  obtain ⟨rfl, stated⟩ := knownAt_eq_ok_iff.mp found
  refine knownAt_eq_ok_iff.mpr ⟨getD_forgetAt, ?_⟩
  split
  · rwa [dims?_forgetValue]
  · exact stated

theorem valueOf?_forgetAt (kept : index ∉ positions) :
    valueOf? (forgetAt positions inputs) index = valueOf? inputs index := by
  rw [valueOf?, valueOf?, getD_forgetAt, if_neg kept]

/-- An input of known value has its dimensions. -/
theorem dims_of_knownAt (found : knownAt inputs index = .ok (known, dims))
    (valued : known.value? = some value) : dims = value.dims := by
  have stated := (knownAt_eq_ok_iff.mp found).2
  rw [eq_exact valued] at stated
  exact (Option.some.inj stated).symm

/-- All inputs with their dimensions. -/
theorem mapM_knownAt_eq_ok_iff {listed : List (Knowledge × Shape)} :
    (List.range inputs.length).mapM (knownAt inputs) = .ok listed ↔
      (∀ knowledge ∈ inputs, knowledge.isKnown = true) ∧
        listed = inputs.map fun knowledge => (knowledge, knowledge.shape?.getD []) := by
  have stepwise (index : Nat) (entry : Knowledge × Shape) :
      knownAt inputs index = .ok entry ↔ (inputs.getD index .unknown).isKnown = true ∧
        entry = (inputs.getD index .unknown, (inputs.getD index .unknown).shape?.getD []) := by
    obtain ⟨known, dims⟩ := entry
    rw [knownAt_eq_ok_iff, Prod.mk.injEq, dims?]
    grind
  have listing : (List.range inputs.length).map (fun index =>
      (inputs.getD index .unknown, (inputs.getD index .unknown).shape?.getD [])) =
        inputs.map fun knowledge => (knowledge, knowledge.shape?.getD []) := by
    refine List.ext_getElem (by simp) fun index _ inside => ?_
    rw [List.length_map] at inside
    simp [inside]
  rw [Outcome.mapM_eq_ok_iff stepwise, listing]
  refine and_congr_left fun _ => ?_
  simp only [List.mem_range, List.forall_mem_iff_getElem]
  refine forall₂_congr fun index inside => ?_
  rw [List.getD_eq_getElem?_getD, List.getElem?_eq_getElem inside, Option.getD_some]

/-! ## The operators -/

/-- When values of inputs at some positions are forgotten, a transfer function finds out the shape
of the value that it folded to. -/
def InfersFolded (apply : Node → List Knowledge → TransferResult) (positions : List Nat) : Prop :=
  ∀ node inputs folded, apply node inputs = .ok [.exact folded] →
    ∃ dims, folded.shape = some dims ∧ apply node (forgetAt positions inputs) = .ok [.shape dims]

theorem infersFolded_unsqueeze (data : 0 ∈ positions) (parameter : 1 ∉ positions) :
    InfersFolded unsqueeze positions := by
  intro node inputs folded done
  obtain ⟨⟨input, shape⟩, found, done⟩ := Outcome.bind_eq_ok_iff.mp done
  obtain ⟨axes, listed, done⟩ := Outcome.bind_eq_ok_iff.mp done
  cases valued : input.value? with
  | none =>
    rw [valued] at done
    obtain ⟨dims, -, result⟩ := Outcome.bind_eq_ok_iff.mp done
    cases result
  | some value =>
    rw [valued] at done
    obtain ⟨result, computed, same⟩ := Outcome.bind_eq_ok_iff.mp done
    cases same
    obtain ⟨dims, inferred, stated⟩ :=
      Tensor.shape_of_unsqueeze (Outcome.mapError_eq_ok_iff.mp computed)
    refine ⟨dims, stated, ?_⟩
    have again : attributeOrInput "unsqueeze axes" "axes" node (forgetAt positions inputs) =
        .ok axes := by
      rw [attributeOrInput, valueOf?_forgetAt parameter]
      exact listed
    rw [← dims_of_knownAt found valued] at inferred
    rw [unsqueeze, knownAt_forgetAt found, if_pos data, again]
    dsimp only [bind, Except.bind]
    rw [value?_forgetValue, inferred]
    rfl

theorem infersFolded_reshape (data : 0 ∈ positions) (parameter : 1 ∉ positions) :
    InfersFolded reshape positions := by
  intro node inputs folded done
  obtain ⟨⟨input, shape⟩, found, done⟩ := Outcome.bind_eq_ok_iff.mp done
  cases targeted : valueOf? inputs 1 with
  | none =>
    rw [targeted] at done
    cases done
  | some target =>
    rw [targeted] at done
    dsimp only at done
    cases valued : input.value? with
    | none =>
      rw [valued] at done
      obtain ⟨dims, -, result⟩ := Outcome.bind_eq_ok_iff.mp done
      cases result
    | some value =>
      rw [valued] at done
      obtain ⟨result, computed, same⟩ := Outcome.bind_eq_ok_iff.mp done
      cases same
      obtain ⟨dims, inferred, rfl⟩ :=
        Tensor.reshape_eq_ok_iff.mp (Outcome.mapError_eq_ok_iff.mp computed)
      refine ⟨dims, rfl, ?_⟩
      rw [← dims_of_knownAt found valued] at inferred
      rw [reshape, knownAt_forgetAt found, if_pos data, valueOf?_forgetAt parameter, targeted]
      dsimp only [bind, Except.bind]
      rw [value?_forgetValue, inferred]
      rfl

theorem infersFolded_gather (data : 0 ∈ positions ∨ 1 ∈ positions) :
    InfersFolded gather positions := by
  intro node inputs folded done
  obtain ⟨⟨input, shape⟩, found, done⟩ := Outcome.bind_eq_ok_iff.mp done
  obtain ⟨⟨indices, indexShape⟩, indicesFound, done⟩ := Outcome.bind_eq_ok_iff.mp done
  dsimp only at done
  split at done
  · next value chosen valued indicesValued =>
    obtain ⟨result, computed, same⟩ := Outcome.bind_eq_ok_iff.mp done
    cases same
    obtain ⟨position, inferred, stated⟩ :=
      Tensor.shape_of_take (Outcome.mapError_eq_ok_iff.mp computed)
    refine ⟨_, stated, ?_⟩
    rw [← dims_of_knownAt found valued] at inferred ⊢
    rw [← dims_of_knownAt indicesFound indicesValued]
    rw [gather, knownAt_forgetAt found, knownAt_forgetAt indicesFound]
    dsimp only [bind, Except.bind]
    rcases data with data | data
    · rw [if_pos data, value?_forgetValue, inferred]
      rfl
    · rw [if_pos data, value?_forgetValue, inferred]
      cases (if 0 ∈ positions then input.forgetValue else input).value? with
      | none => rfl
      | some value => rfl
  · obtain ⟨position, -, result⟩ := Outcome.bind_eq_ok_iff.mp done
    cases result

theorem infersFolded_pointwise (op : Binary64 → Binary64 → Binary64)
    (data : 0 ∈ positions ∨ 1 ∈ positions) : InfersFolded (pointwise op) positions := by
  intro node inputs folded done
  obtain ⟨⟨left, leftShape⟩, leftFound, done⟩ := Outcome.bind_eq_ok_iff.mp done
  obtain ⟨⟨right, rightShape⟩, rightFound, done⟩ := Outcome.bind_eq_ok_iff.mp done
  obtain ⟨output, joined, done⟩ := Outcome.bind_eq_ok_iff.mp done
  dsimp only at done joined
  split at done
  · next x y leftValued rightValued =>
    obtain ⟨result, computed, same⟩ := Outcome.bind_eq_ok_iff.mp done
    have stated := Tensor.shape_of_zipBroadcast (Outcome.mapError_eq_ok_iff.mp computed)
    refine ⟨output, ?_, ?_⟩
    · cases same
      split
      · exact stated
      · exact stated
    · rw [pointwise, knownAt_forgetAt leftFound, knownAt_forgetAt rightFound]
      dsimp only [bind, Except.bind]
      rw [joined]
      dsimp only
      rcases data with data | data
      · rw [if_pos data, value?_forgetValue]
        rfl
      · rw [if_pos data, value?_forgetValue]
        cases (if 0 ∈ positions then left.forgetValue else left).value? with
        | none => rfl
        | some value => rfl
  · cases done

theorem infersFolded_concat {node : Node} {folded : Tensor}
    (data : ∃ position ∈ positions, position < inputs.length)
    (done : concat node inputs = .ok [.exact folded]) :
    ∃ dims, folded.shape = some dims ∧
      concat node (forgetAt positions inputs) = .ok [.shape dims] := by
  obtain ⟨position, member, inside⟩ := data
  obtain ⟨listed, found, done⟩ := Outcome.bind_eq_ok_iff.mp done
  obtain ⟨known, rfl⟩ := mapM_knownAt_eq_ok_iff.mp found
  have again : (List.range (forgetAt positions inputs).length).mapM
      (knownAt (forgetAt positions inputs)) = .ok ((forgetAt positions inputs).map
        fun knowledge => (knowledge, knowledge.shape?.getD [])) := by
    refine mapM_knownAt_eq_ok_iff.mpr ⟨?_, rfl⟩
    rw [← List.forall_mem_map (P := (· = true)), map_forgetAt isKnown_forgetValue,
      List.forall_mem_map]
    exact known
  have dims (inputs : List Knowledge) : (inputs.map fun knowledge =>
      (knowledge, knowledge.shape?.getD [])).map Prod.snd =
        inputs.map fun knowledge => knowledge.shape?.getD [] := List.map_map
  have values (inputs : List Knowledge) : (inputs.map fun knowledge =>
      (knowledge, knowledge.shape?.getD [])).filterMap (fun entry => entry.1.value?) =
        inputs.filterMap value? := List.filterMap_map
  dsimp only at done
  rw [values, dims] at done
  split at done
  · next valued =>
    obtain ⟨result, computed, same⟩ := Outcome.bind_eq_ok_iff.mp done
    cases same
    obtain ⟨joined, inferred, stated⟩ :=
      Tensor.shape_of_concat (Outcome.mapError_eq_ok_iff.mp computed)
    refine ⟨joined, stated, ?_⟩
    have shapes : inputs.map (fun knowledge => knowledge.shape?.getD []) =
        (inputs.filterMap value?).map Tensor.dims := by
      conv_lhs => rw [eq_map_exact valued]
      rw [List.map_map]
      rfl
    rw [concat, again]
    dsimp only [bind, Except.bind]
    rw [values, dims, length_forgetAt, if_neg (length_filterMap_forgetAt_ne member inside),
      map_forgetAt (fun knowledge => by rw [shape?_forgetValue]), shapes, inferred]
    rfl
  · obtain ⟨joined, -, result⟩ := Outcome.bind_eq_ok_iff.mp done
    cases result

/-! ## The built-in functions -/

/-- The inputs, of so many, whose values an operator that folds works on. -/
def dataInputs (op : String) (count : Nat) : List Nat :=
  if op = "Unsqueeze" ∨ op = "Reshape" then [0]
  else if op ∈ ["Gather", "Add", "Sub", "Mul", "Div"] then [0, 1]
  else if op = "Concat" then List.range count
  else []

/-- An operator that folded to a value finds out the shape of that value when the values of some of
the inputs that it works on, one or more, are forgotten. -/
theorem shape_of_forgotten {op : String} {transfer : Transfer} {node : Node} {folded : Tensor}
    (registered : Transfer.builtin.get? op = some transfer)
    (done : transfer.apply node inputs = .ok [.exact folded])
    (forgotten : positions ≠ []) (data : positions ⊆ dataInputs op inputs.length) :
    ∃ dims, folded.shape = some dims ∧
      transfer.apply node (forgetAt positions inputs) = .ok [.shape dims] := by
  obtain ⟨position, member⟩ := List.exists_mem_of_ne_nil positions forgotten
  have listed := data member
  rw [dataInputs] at data listed
  split at data
  · next single =>
    rw [if_pos single, List.mem_singleton] at listed
    subst listed
    have parameter : 1 ∉ positions := fun second => absurd (data second) (by decide)
    rcases single with rfl | rfl
    · cases registered
      exact infersFolded_unsqueeze member parameter node inputs folded done
    · cases registered
      exact infersFolded_reshape member parameter node inputs folded done
  · next several =>
    rw [if_neg several] at listed
    split at data
    · next pair =>
      rw [if_pos pair] at listed
      have first : 0 ∈ positions ∨ 1 ∈ positions := by
        rcases List.mem_pair.mp listed with rfl | rfl
        · exact .inl member
        · exact .inr member
      simp only [List.mem_cons, List.not_mem_nil, or_false] at pair
      rcases pair with rfl | rfl | rfl | rfl | rfl
      · cases registered
        exact infersFolded_gather first node inputs folded done
      all_goals
        cases registered
        exact infersFolded_pointwise _ first node inputs folded done
    · next other =>
      rw [if_neg other] at listed
      split at data
      · next joins =>
        rw [if_pos joins] at listed
        subst joins
        cases registered
        exact infersFolded_concat ⟨position, member, List.mem_range.mp listed⟩ done
      · next unlisted =>
        rw [if_neg unlisted] at listed
        cases listed

/-- The last column of a table, taken at an index and along an axis that count from the back, and
its shape when neither the table nor the index has a value. -/
theorem shape_of_forgotten_column :
    let node : Node :=
      ⟨0, "last", "Gather", .ofList [("axis", .int (-1))], ["t", "i"], ["c"], .empty, [], []⟩
    let table : Tensor := ⟨some [2, 3], .int64, [1, 2, 3, 4, 5, 6].map Binary64.ofInt, 0⟩
    let index : Tensor := ⟨some [1], .int64, [Binary64.ofInt (-1)], 0⟩
    let column : Tensor := ⟨some [2, 1], .int64, [3, 6].map Binary64.ofInt, 0⟩
    gather node [.exact table, .exact index] = .ok [.exact column] ∧
      gather node [.shape [2, 3], .shape [1]] = .ok [.shape [2, 1]] := by
  intro node table index column
  have done : gather node [.exact table, .exact index] = .ok [.exact column] := by decide +kernel
  refine ⟨done, ?_⟩
  obtain ⟨dims, stated, inferred⟩ := @shape_of_forgotten [0, 1] [.exact table, .exact index]
    "Gather" ⟨true, gather⟩ node column rfl done (by decide) (by decide)
  cases stated
  exact inferred

end Transfer

end StaticNet
