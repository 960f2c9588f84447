import StaticNet.Proofs.Outcome
import StaticNet.Weights.Decoding

/-! # What a weights file holds

The contents of the weights file of nodes are a record: one layer per node that holds weights, one
entry per constant input. An entry repeats a tensor when the tensor stands earlier in the stream.
The written file is the serialization of that record, and it is written exactly when the layout
exists.
-/

namespace StaticNet

open Weights

/-! ## Serialization -/

/-- The bytes of an entry: its dimension fields, then its elements. -/
def WeightsEntry.bytes (entry : WeightsEntry) : Bytes :=
  wordBytes entry.dims ++ wordBytes (entry.data.map Binary32.bits)

/-- The bytes of a layer: two lines, the entries, and a zero word when biases are missing. -/
def WeightsLayer.bytes (layer : WeightsLayer) : Bytes :=
  lineBytes layer.name ++ lineBytes layer.op ++ layer.entries.flatMap WeightsEntry.bytes ++
    if layer.zeroBias then Bytes.ofWord 0 else []

/-- The bytes of a file. -/
def WeightsFile.bytes (file : WeightsFile) : Bytes :=
  weightsMagic ++ lineBytes file.model ++ Bytes.ofWord (UInt32.ofNat file.layers.length) ++
    file.layers.flatMap WeightsLayer.bytes ++ weightsEnd

namespace Weights

/-! ## Contents -/

/-- The entry of a constant input, given the tensors that stand before it in the stream. -/
def entryOf (earlier : List String) (input : String × Tensor) : WeightsEntry :=
  let fields := (fields? input.2.dims).getD []
  if earlier.contains input.1 then ⟨input.1, fields.map fun _ => 0, [], true⟩
  else ⟨input.1, fields, input.2.singles, false⟩

/-- The entries of the constant inputs of a layer. -/
def entriesOf : List String → List (String × Tensor) → List WeightsEntry
  | _, [] => []
  | earlier, input :: rest => entryOf earlier input :: entriesOf (input.1 :: earlier) rest

/-- The tensors that stand in the stream after a layer. -/
def streamed (earlier : List String) (node : Node) : List String :=
  node.constantNames.reverse ++ earlier

/-- The layer of a node. -/
def layerOf (earlier : List String) (node : Node) : WeightsLayer :=
  ⟨node.name, node.op, entriesOf earlier node.constants.entries, node.lacksBias⟩

/-- The layers of nodes, given the tensors that stand before them. -/
def layersOf : List String → List Node → List WeightsLayer
  | _, [] => []
  | earlier, node :: rest => layerOf earlier node :: layersOf (streamed earlier node) rest

/-- The contents of the weights file of nodes. -/
def contents (model : String) (nodes : List Node) : WeightsFile :=
  ⟨model, layersOf [] (nodes.filter Node.holdsWeights)⟩

@[simp] theorem length_layersOf (earlier : List String) (nodes : List Node) :
    (layersOf earlier nodes).length = nodes.length := by
  induction nodes generalizing earlier with
  | nil => rfl
  | cons node rest ih => simp only [layersOf, List.length_cons, ih]

/-! ## Ranks -/

/-- The dimension fields exist for the same ranks as their number, and are as many. -/
theorem dimensionCount?_length (dims : Shape) :
    dimensionCount? dims.length = (fields? dims).map List.length := by
  match dims with
  | [] => rfl
  | [_] => rfl
  | [_, _] => rfl
  | [_, _, _] => rfl
  | [_, _, _, _] => rfl
  | _ :: _ :: _ :: _ :: _ :: rest =>
    simp only [dimensionCount?, fields?, List.length_cons, Option.map_none]
    grind

theorem fields?_ne_nil {dims : Shape} {fields : List UInt32} (known : fields? dims = some fields) :
    fields ≠ [] := by
  rintro rfl
  unfold fields? at known
  split at known <;> simp at known

/-- A node whose constant inputs all have a rank that the file can hold. -/
def Encodable (node : Node) : Prop :=
  ∀ input ∈ node.constants.entries, ∃ fields, fields? input.2.dims = some fields

private theorem checkedRank_eq (layer : String) (input : String × Tensor) :
    WeightsLayout.checkedRank layer input =
      match fields? input.2.dims with
      | some _ => .ok (input.2.rank : Int)
      | none => .error ⟨layer, input.1, input.2.rank⟩ := by
  simp only [WeightsLayout.checkedRank, Tensor.rank, dimensionCount?_length]
  cases fields? input.2.dims <;> rfl

private theorem checkedRank_eq_ok_iff (layer : String) (input : String × Tensor) (rank : Int) :
    WeightsLayout.checkedRank layer input = .ok rank ↔
      (∃ fields, fields? input.2.dims = some fields) ∧ rank = input.2.rank := by
  rw [checkedRank_eq]
  cases fields? input.2.dims <;> simp [eq_comm]

/-- The layout of a layer whose ranks the file can hold. -/
def layoutOf (node : Node) : LayerLayout :=
  ⟨node.name, node.op, node.constantNames,
    node.constants.entries.map fun input => (input.2.rank : Int), node.lacksBias⟩

/-- A layer has a layout exactly when its node is encodable. -/
theorem ofNode_eq_ok_iff (node : Node) (layout : LayerLayout) :
    WeightsLayout.ofNode node = .ok layout ↔ Encodable node ∧ layout = layoutOf node := by
  simp only [WeightsLayout.ofNode, Outcome.bind_eq_ok_iff,
    Outcome.mapM_eq_ok_iff (checkedRank_eq_ok_iff node.name), pure, Except.pure, Except.ok.injEq,
    Encodable, layoutOf, Node.constantNames]
  grind

/-- A file has a layout exactly when all its layers are encodable. -/
theorem ofNodes_eq_ok_iff (model : String) (nodes : List Node) (layout : WeightsLayout) :
    WeightsLayout.ofNodes model nodes = .ok layout ↔
      (∀ node ∈ nodes.filter Node.holdsWeights, Encodable node) ∧
        layout = ⟨model, (nodes.filter Node.holdsWeights).map layoutOf⟩ := by
  simp only [WeightsLayout.ofNodes, Outcome.bind_eq_ok_iff,
    Outcome.mapM_eq_ok_iff ofNode_eq_ok_iff, pure, Except.pure, Except.ok.injEq]
  grind

/-! ## The writer -/

private theorem bytes_entryOf (earlier : List String) (input : String × Tensor)
    {fields : List UInt32} (known : fields? input.2.dims = some fields) :
    (entryOf earlier input).bytes = tensorBytes (earlier.contains input.1) fields input.2 := by
  simp only [entryOf, known, Option.getD_some, tensorBytes]
  split
  · simp [WeightsEntry.bytes, wordBytes]
  · rfl

private theorem encodeTensors_eq_ok_iff (layer : String) (written : List String)
    (inputs : List (String × Tensor)) (result : Bytes × List String) :
    encodeTensors layer written inputs = .ok result ↔
      (∀ input ∈ inputs, ∃ fields, fields? input.2.dims = some fields) ∧
        result = ((entriesOf written inputs).flatMap WeightsEntry.bytes,
          (inputs.map Prod.fst).reverse ++ written) := by
  induction inputs generalizing written result with
  | nil => simp [encodeTensors, entriesOf, eq_comm]
  | cons input rest ih =>
    rw [encodeTensors]
    cases known : fields? input.2.dims with
    | none => simp [known]
    | some fields =>
      simp only [Outcome.bind_eq_ok_iff, ih, pure, Except.pure, Except.ok.injEq, Prod.exists,
        Prod.mk.injEq, List.forall_mem_cons, known, Option.some.injEq, exists_eq', true_and,
        entriesOf, List.flatMap_cons, bytes_entryOf written input known, List.map_cons,
        List.reverse_cons, List.append_assoc, List.cons_append, List.nil_append]
      grind

private theorem encodeLayer_eq_ok_iff (written : List String) (node : Node)
    (result : Bytes × List String) :
    encodeLayer written node = .ok result ↔
      Encodable node ∧ result = ((layerOf written node).bytes, streamed written node) := by
  simp only [encodeLayer, Outcome.bind_eq_ok_iff, encodeTensors_eq_ok_iff, pure, Except.pure,
    Except.ok.injEq, Encodable, layerOf, WeightsLayer.bytes, streamed, Node.constantNames,
    Dict.keys]
  grind

private theorem encodeLayers_eq_ok_iff (written : List String) (nodes : List Node)
    (result : Bytes) :
    encodeLayers written nodes = .ok result ↔
      (∀ node ∈ nodes, Encodable node) ∧
        result = (layersOf written nodes).flatMap WeightsLayer.bytes := by
  induction nodes generalizing written result with
  | nil => simp [encodeLayers, layersOf, eq_comm]
  | cons node rest ih =>
    have layer := encodeLayer_eq_ok_iff written node
    rw [encodeLayers]
    cases first : encodeLayer written node with
    | error cause =>
      have refused : ¬ Encodable node := fun encodable => by
        simpa [first] using (layer _).mpr ⟨encodable, rfl⟩
      simp [refused]
    | ok state =>
      obtain ⟨encodable, rfl⟩ := (layer state).mp first
      have others := ih (streamed written node)
      dsimp only
      cases tail : encodeLayers (streamed written node) rest with
      | error cause =>
        have refused : ¬ ∀ node ∈ rest, Encodable node := fun encodable => by
          simpa [tail] using (others _).mpr ⟨encodable, rfl⟩
        simp only [reduceCtorEq, List.forall_mem_cons, false_iff]
        exact fun claim => refused claim.1.2
      | ok bytes =>
        obtain ⟨encodableRest, rfl⟩ := (others bytes).mp tail
        simp only [Except.ok.injEq, List.forall_mem_cons, layersOf, List.flatMap_cons]
        grind

/-- The file is written exactly when all layers are encodable, and is then the serialization of its
contents. -/
theorem encode_eq_ok_iff (model : String) (nodes : List Node) (bytes : Bytes) :
    encode model nodes = .ok bytes ↔
      (∀ node ∈ nodes.filter Node.holdsWeights, Encodable node) ∧
        bytes = (contents model nodes).bytes := by
  simp only [encode, Outcome.bind_eq_ok_iff, encodeLayers_eq_ok_iff, pure, Except.pure,
    Except.ok.injEq, contents, WeightsFile.bytes, length_layersOf]
  grind

end Weights

end StaticNet
