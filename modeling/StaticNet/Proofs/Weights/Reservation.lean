import StaticNet.Proofs.Weights.Reading

/-! # Elements that cannot be reserved

The elements of a tensor are reserved before they are read, as many as the machine product of the
dimension fields. Nothing checks that number. The product of fields can wrap around to a negative
number, or be larger than any reservation, and the read then ends without a result or an error. That
happens at the first tensor with such fields, however the data go on, and nowhere else.
-/

namespace StaticNet

theorem LayerLayout.trimmed_of_complete {layout : LayerLayout}
    (complete : layout.ranks.length = layout.tensors.length) : layout.trimmed = layout := by
  rw [trimmed, ← complete, List.take_length]

namespace Weights

/-- The elements of a tensor cannot be reserved: their machine count is negative, or it exceeds
every reservation and is more than the data hold. -/
def Unreservable (dims : List UInt32) (rest : Bytes) : Prop :=
  fieldProduct dims < 0 ∨
    largestReservation < 4 * (fieldProduct dims).toInt.toNat ∧
      rest.length < 4 * (fieldProduct dims).toInt.toNat

theorem exists_takeWords_eq_error_iff {count : Nat} {bytes : Bytes} :
    (∃ cause, takeWords count bytes = .error cause) ↔ bytes.length < 4 * count := by
  rw [takeWords, takeBytes]
  split
  · next enough =>
    constructor
    · rintro ⟨cause, failed⟩
      cases failed
    · intro short
      omega
  · next short =>
    refine ⟨fun _ => Nat.not_le.mp short, fun _ => ?_⟩
    split
    · exact ⟨.nothing, rfl⟩
    · exact ⟨.part, rfl⟩

theorem takeEntry_eq_trap_iff {tensor : String} {dims : List UInt32} {bytes : Bytes} :
    takeEntry tensor dims bytes = .error .trap ↔ Unreservable dims bytes := by
  unfold takeEntry Unreservable
  dsimp only
  have short := @exists_takeWords_eq_error_iff (fieldProduct dims).toInt.toNat bytes
  split
  · next zero => simp [zero]
  · split
    · next negative => simp [negative]
    · next natural =>
      rw [or_iff_right natural, ← short]
      cases takeWords (fieldProduct dims).toInt.toNat bytes with
      | ok result => simp
      | error cause => simp

/-- The data come to the elements of a tensor of a layer: the tensors before it read back, and it
has its dimension fields. -/
inductive ComesTo : List String → List Int → Bytes → List UInt32 → Bytes → Prop where
  | here {tensor : String} {tensors : List String} {rank : Int} {ranks : List Int}
      {dims : List UInt32} {rest : Bytes} (fields : dimensionCount? rank = some dims.length) :
      ComesTo (tensor :: tensors) (rank :: ranks) (wordBytes dims ++ rest) dims rest
  | later {entry : WeightsEntry} {tensors : List String} {rank : Int} {ranks : List Int}
      {bytes : Bytes} {dims : List UInt32} {rest : Bytes}
      (fields : dimensionCount? rank = some entry.dims.length) (readable : Readable entry)
      (comes : ComesTo tensors ranks bytes dims rest) :
      ComesTo (entry.tensor :: tensors) (rank :: ranks) (entry.bytes ++ bytes) dims rest

theorem takeEntries_of_comesTo {tensors : List String} {ranks : List Int} {bytes : Bytes}
    {dims : List UInt32} {rest : Bytes} (comes : ComesTo tensors ranks bytes dims rest)
    (unreservable : Unreservable dims rest) : takeEntries tensors ranks bytes = .error .trap := by
  induction comes with
  | here fields =>
    rw [takeEntries, fields]
    simp only [takeWords_append rfl, Except.mapError, bind, Except.bind,
      takeEntry_eq_trap_iff.mpr unreservable]
  | later fields readable _ ih =>
    rw [takeEntries, fields]
    simp only [WeightsEntry.bytes, List.append_assoc, takeWords_append rfl, Except.mapError, bind,
      Except.bind, takeEntry_append readable, ih unreservable]

theorem comesTo_of_takeEntries {tensors : List String} {ranks : List Int} {bytes : Bytes}
    (complete : ranks.length = tensors.length)
    (trapped : takeEntries tensors ranks bytes = .error .trap) :
    ∃ dims rest, ComesTo tensors ranks bytes dims rest ∧ Unreservable dims rest := by
  induction tensors generalizing ranks bytes with
  | nil =>
    rw [takeEntries] at trapped
    cases trapped
  | cons tensor tensors ih =>
    cases ranks with
    | nil => cases complete
    | cons rank ranks =>
      rw [takeEntries] at trapped
      cases fields : dimensionCount? rank with
      | none => simp [fields] at trapped
      | some count =>
        rw [fields] at trapped
        obtain ⟨⟨dims, afterDims⟩, dimsRead, remaining⟩ :=
          Outcome.of_bind_mapError trapped (by simp)
        obtain ⟨rfl, rfl⟩ := of_takeWords dimsRead
        rcases Outcome.bind_eq_error_iff.mp remaining with
          failed | ⟨⟨entry, afterEntry⟩, entryRead, laterTrapped⟩
        · exact ⟨dims, afterDims, .here fields, takeEntry_eq_trap_iff.mp failed⟩
        obtain ⟨rfl, rfl, readable, rfl⟩ := of_takeEntry entryRead
        rcases Outcome.bind_eq_error_iff.mp laterTrapped with failed | ⟨_, -, impossible⟩
        · obtain ⟨dims, rest, comes, unreservable⟩ := ih (Nat.succ.inj complete) failed
          have whole := ComesTo.later fields readable comes
          rw [WeightsEntry.bytes, List.append_assoc] at whole
          exact ⟨dims, rest, whole, unreservable⟩
        · cases impossible

/-- The data come to the elements of a tensor of the named layer: the layers before it read back. -/
inductive ComesToLayer : List LayerLayout → Bytes → String → List UInt32 → Bytes → Prop where
  | here {layout : LayerLayout} {layouts : List LayerLayout} {bytes : Bytes} {dims : List UInt32}
      {rest : Bytes} (named : OneLine layout.name) (operator : OneLine layout.op)
      (comes : ComesTo layout.tensors layout.ranks bytes dims rest) :
      ComesToLayer (layout :: layouts) (lineBytes layout.name ++ (lineBytes layout.op ++ bytes))
        layout.name dims rest
  | later {layout : LayerLayout} {layouts : List LayerLayout} {layer : WeightsLayer}
      {bytes : Bytes} {name : String} {dims : List UInt32} {rest : Bytes}
      (announced : Announced layout layer) (named : OneLine layer.name)
      (operator : OneLine layer.op) (readable : ∀ entry ∈ layer.entries, Readable entry)
      (comes : ComesToLayer layouts bytes name dims rest) :
      ComesToLayer (layout :: layouts) (layer.bytes ++ bytes) name dims rest

theorem takeLayers_of_comesToLayer {layouts : List LayerLayout} {bytes : Bytes} {name : String}
    {dims : List UInt32} {rest : Bytes} (comes : ComesToLayer layouts bytes name dims rest)
    (unreservable : Unreservable dims rest) :
    takeLayers layouts bytes = .error (.layer name .trap) := by
  induction comes with
  | here named operator comes =>
    have trapped := takeEntries_of_comesTo comes unreservable
    simp only [takeLayers, takeLayer, takeLine_append named, takeLine_append operator,
      Except.mapError, bind, Except.bind, ne_eq, not_true_eq_false, or_self, if_false, trapped]
  | later announced named operator readable _ ih =>
    have read := takeLayer_append announced named operator readable
    simp only [takeLayers, read, Except.mapError, bind, Except.bind, ih unreservable]

/-- The count of biases is a single word, whatever it says. -/
theorem takeZero_ne_trap (bytes : Bytes) : takeZero bytes ≠ .error .trap := by
  intro trapped
  obtain ⟨⟨words, rest⟩, -, checked⟩ := Outcome.of_bind_mapError trapped (by simp)
  obtain ⟨-, impossible⟩ := Outcome.of_refusal_error checked (by simp)
  cases impossible

/-- A layer traps at the elements of one of its tensors. -/
theorem comesTo_of_takeLayer {layout : LayerLayout} {bytes : Bytes}
    (complete : layout.ranks.length = layout.tensors.length)
    (trapped : takeLayer layout bytes = .error .trap) :
    ∃ data dims rest, OneLine layout.name ∧ OneLine layout.op ∧
      bytes = lineBytes layout.name ++ (lineBytes layout.op ++ data) ∧
      ComesTo layout.tensors layout.ranks data dims rest ∧ Unreservable dims rest := by
  obtain ⟨⟨name, afterName⟩, nameRead, opTrapped⟩ := Outcome.of_bind_mapError trapped (by simp)
  obtain ⟨⟨op, afterOp⟩, opRead, checked⟩ := Outcome.of_bind_mapError opTrapped (by simp)
  obtain ⟨same, matched⟩ := Outcome.of_refusal_error checked (by simp)
  simp only [not_or, not_not] at same
  obtain ⟨rfl, rfl⟩ := same
  obtain ⟨named, rfl⟩ := of_takeLine_bytes nameRead
  obtain ⟨operator, rfl⟩ := of_takeLine_bytes opRead
  rcases Outcome.bind_eq_error_iff.mp matched with failed | ⟨⟨entries, after⟩, -, closing⟩
  · obtain ⟨dims, rest, comes, unreservable⟩ := comesTo_of_takeEntries complete failed
    exact ⟨afterOp, dims, rest, named, operator, rfl, comes, unreservable⟩
  · dsimp only at closing
    split at closing
    · rcases Outcome.bind_eq_error_iff.mp closing with failed | ⟨_, -, impossible⟩
      · exact absurd failed (takeZero_ne_trap after)
      · cases impossible
    · cases closing

theorem comesToLayer_of_takeLayers {layouts : List LayerLayout} {bytes : Bytes} {name : String}
    (complete : ∀ layout ∈ layouts, layout.ranks.length = layout.tensors.length)
    (trapped : takeLayers layouts bytes = .error (.layer name .trap)) :
    ∃ dims rest, ComesToLayer layouts bytes name dims rest ∧ Unreservable dims rest := by
  induction layouts generalizing bytes with
  | nil => cases trapped
  | cons layout layouts ih =>
    obtain ⟨here, later⟩ := List.forall_mem_cons.mp complete
    rcases Outcome.bind_eq_error_iff.mp trapped with
      failed | ⟨⟨layer, afterLayer⟩, layerRead, laterTrapped⟩
    · obtain ⟨cause, failed, same⟩ := Outcome.mapError_eq_error_iff.mp failed
      cases same
      obtain ⟨data, dims, rest, named, operator, rfl, comes, unreservable⟩ :=
        comesTo_of_takeLayer here failed
      exact ⟨dims, rest, .here named operator comes, unreservable⟩
    · obtain ⟨announced, ⟨named, operator⟩, readable, rfl⟩ :=
        of_takeLayer (Outcome.mapError_eq_ok_iff.mp layerRead)
      rw [LayerLayout.trimmed_of_complete here] at announced
      rcases Outcome.bind_eq_error_iff.mp laterTrapped with failed | ⟨_, -, impossible⟩
      · obtain ⟨dims, rest, comes, unreservable⟩ := ih later failed
        exact ⟨dims, rest, .later announced named operator readable comes, unreservable⟩
      · cases impossible

/-- The data of a file come to the elements of a tensor of the named layer: the texts and counts
before the layers are those of the layout. -/
structure ComesToTensor (layout : WeightsLayout) (bytes : Bytes) (name : String)
    (dims : List UInt32) (rest : Bytes) : Prop where
  title : OneLine layout.model
  few : layout.layers.length < 2 ^ 32
  layers : ∃ data, ComesToLayer layout.layers data name dims rest ∧
    bytes = weightsMagic ++ (lineBytes layout.model ++
      (Bytes.ofWord (UInt32.ofNat layout.layers.length) ++ data))

theorem decode_of_comesToTensor {layout : WeightsLayout} {bytes : Bytes} {name : String}
    {dims : List UInt32} {rest : Bytes} (comes : ComesToTensor layout bytes name dims rest)
    (unreservable : Unreservable dims rest) :
    decode layout bytes = .error (.layer name .trap) := by
  obtain ⟨title, few, data, layers, rfl⟩ := comes
  have magic (rest : Bytes) : takeBytes weightsMagic.length (weightsMagic ++ rest) =
      .ok (weightsMagic, rest) := takeBytes_append rfl rest
  have count : (UInt32.ofNat layout.layers.length).toNat = layout.layers.length :=
    UInt32.toNat_ofNat_of_lt' few
  simp only [decode, magic, takeLine_append title, takeWord_append, Except.mapError, bind,
    Except.bind, ne_eq, not_true_eq_false, if_false, List.headD_cons, count,
    takeLayers_of_comesToLayer layers unreservable]

theorem comesToTensor_of_decode {layout : WeightsLayout} {bytes : Bytes} {name : String}
    (complete : ∀ layer ∈ layout.layers, layer.ranks.length = layer.tensors.length)
    (trapped : decode layout bytes = .error (.layer name .trap)) :
    ∃ dims rest, ComesToTensor layout bytes name dims rest ∧ Unreservable dims rest := by
  obtain ⟨⟨magic, afterMagic⟩, magicRead, checked⟩ := Outcome.of_bind_mapError trapped (by simp)
  obtain ⟨sameMagic, checked⟩ := Outcome.of_refusal_error checked (by simp)
  obtain ⟨⟨model, afterModel⟩, modelRead, checked⟩ := Outcome.of_bind_mapError checked (by simp)
  obtain ⟨sameModel, checked⟩ := Outcome.of_refusal_error checked (by simp)
  obtain ⟨⟨count, afterCount⟩, countRead, checked⟩ := Outcome.of_bind_mapError checked (by simp)
  obtain ⟨sameCount, checked⟩ := Outcome.of_refusal_error checked (by simp)
  rcases Outcome.bind_eq_error_iff.mp checked with failed | ⟨⟨layers, afterLayers⟩, -, closing⟩
  · obtain rfl := not_not.mp sameMagic
    obtain rfl := not_not.mp sameModel
    obtain ⟨-, rfl⟩ := of_takeBytes magicRead
    obtain ⟨title, rfl⟩ := of_takeLine_bytes modelRead
    obtain ⟨length, rfl⟩ := of_takeWords countRead
    obtain ⟨word, rfl⟩ := List.length_eq_one_iff.mp length
    have found : word.toNat = layout.layers.length := not_not.mp sameCount
    have written : wordBytes [word] = Bytes.ofWord (UInt32.ofNat layout.layers.length) := by
      simp [wordBytes, ← found]
    obtain ⟨dims, rest, layers, unreservable⟩ := comesToLayer_of_takeLayers complete failed
    refine ⟨dims, rest, ⟨title, found ▸ word.toNat_lt, afterCount, layers, ?_⟩, unreservable⟩
    rw [written]
  · obtain ⟨-, impossible⟩ := Outcome.of_refusal_error closing (by simp)
    cases impossible

/-- Reading ends without a result or an error exactly when the data come to the elements of a tensor
that cannot be reserved. -/
theorem decode_eq_trap_iff {layout : WeightsLayout}
    (complete : ∀ layer ∈ layout.layers, layer.ranks.length = layer.tensors.length) (bytes : Bytes)
    (name : String) :
    decode layout bytes = .error (.layer name .trap) ↔
      ∃ dims rest, ComesToTensor layout bytes name dims rest ∧ Unreservable dims rest := by
  constructor
  · exact comesToTensor_of_decode complete
  · rintro ⟨dims, rest, comes, unreservable⟩
    exact decode_of_comesToTensor comes unreservable

/-- The layout of a layer with a matrix. -/
def matrixLayout : WeightsLayout :=
  { model := "net"
    layers := [{ name := "dense", op := "Gemm", tensors := ["w"], ranks := [2],
                 zeroBias := false }] }

/-- The data of such a file up to the dimension fields, whose product is one more than the largest
count. -/
def wrappedMatrix : Bytes :=
  weightsMagic ++ (lineBytes "net" ++ (Bytes.ofWord 1 ++
    (lineBytes "dense" ++ (lineBytes "Gemm" ++ wordBytes [0x80000000, 0x80000000, 2]))))

/-- The machine product of the fields is negative. -/
theorem decode_eq_trap_wrapped :
    fieldProduct [0x80000000, 0x80000000, 2] = -0x8000000000000000 ∧
      decode matrixLayout wrappedMatrix = .error (.layer "dense" .trap) := by
  have complete : ∀ layer ∈ matrixLayout.layers, layer.ranks.length = layer.tensors.length := by
    decide
  have comes : ComesTo ["w"] [2] (wordBytes [0x80000000, 0x80000000, 2] ++ [])
      [0x80000000, 0x80000000, 2] [] := .here rfl
  have layer : ComesToLayer matrixLayout.layers (lineBytes "dense" ++ (lineBytes "Gemm" ++
      wordBytes [0x80000000, 0x80000000, 2])) "dense" [0x80000000, 0x80000000, 2] [] := by
    refine .here ?_ ?_ ?_
    · unfold OneLine
      decide
    · unfold OneLine
      decide
    · exact comes
  have reached : ComesToTensor matrixLayout wrappedMatrix "dense" [0x80000000, 0x80000000, 2] [] :=
    ⟨by unfold OneLine; decide, by decide, _, layer, rfl⟩
  have negative : Unreservable [0x80000000, 0x80000000, 2] [] := .inl (by decide)
  exact ⟨by decide, (decode_eq_trap_iff complete _ _).mpr ⟨_, _, reached, negative⟩⟩

end Weights

end StaticNet
