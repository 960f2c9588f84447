import Mathlib.Data.List.Forall2
import Mathlib.Algebra.BigOperators.Group.List.Basic
import Mathlib.Algebra.Order.Ring.Int
import StaticNet.Proofs.Bytes
import StaticNet.Proofs.Weights.Contents

/-! # Reading back what was written

A written file read against its layout gives its contents back. The file does not describe itself,
so each part is read back in front of arbitrary further bytes; what makes an entry readable is that
the machine product of its dimension fields is the number of its elements.
-/

namespace StaticNet

open Weights

/-! ## Bytes and words -/

namespace Weights

theorem length_wordBytes (words : List UInt32) : (wordBytes words).length = 4 * words.length :=
  Bytes.length_flatMap_encode Bytes.length_ofWord words

theorem blocks_wordBytes (words : List UInt32) :
    (Bytes.blocks 4 (wordBytes words)).map (fun block => UInt32.ofNat block.toNat) = words := by
  rw [wordBytes, Bytes.blocks_flatMap (by decide) Bytes.length_ofWord, List.map_map]
  simp [Function.comp_def, Bytes.toNat_ofWord]

theorem takeBytes_append {count : Nat} {taken : Bytes} (full : taken.length = count)
    (rest : Bytes) : takeBytes count (taken ++ rest) = .ok (taken, rest) := by
  have enough : count ≤ (taken ++ rest).length := by simp only [List.length_append]; omega
  rw [takeBytes, if_pos enough, List.take_left' full, List.drop_left' full]

theorem takeWords_append {count : Nat} {words : List UInt32} (full : words.length = count)
    (rest : Bytes) : takeWords count (wordBytes words ++ rest) = .ok (words, rest) := by
  have width : (wordBytes words).length = 4 * count := by rw [length_wordBytes, full]
  rw [takeWords, takeBytes_append width]
  simp only [bind, Except.bind, pure, Except.pure, blocks_wordBytes]

theorem takeWord_append (word : UInt32) (rest : Bytes) :
    takeWords 1 (Bytes.ofWord word ++ rest) = .ok ([word], rest) := by
  have one : [word].length = 1 := rfl
  simpa [wordBytes] using takeWords_append one rest

/-- A text that fits on a line. -/
def OneLine (s : String) : Prop := 0x0a ∉ Text.bytes s

theorem takeLine_append {s : String} (oneLine : OneLine s) (rest : Bytes) :
    takeLine (lineBytes s ++ rest) = .ok (Text.bytes s, rest) := by
  have plain : ∀ byte ∈ Text.bytes s, decide (byte ≠ 0x0a) = true := by
    intro byte member
    exact decide_eq_true fun same => oneLine (same ▸ member)
  have ended : lineBytes s ++ rest = Text.bytes s ++ 0x0a :: rest := by simp [lineBytes]
  have found : (lineBytes s ++ rest).contains 0x0a = true := by simp [ended]
  rw [takeLine, if_pos found, ended, List.takeWhile_append_of_pos plain,
    List.dropWhile_append_of_pos plain]
  simp

/-! ## Entries and layers -/

/-- An entry that reads back: the product of its dimension fields is the number of its elements, and
it has none exactly when it is a repetition. -/
structure Readable (entry : WeightsEntry) : Prop where
  count : fieldProduct entry.dims = Int64.ofNat entry.data.length
  small : entry.data.length < 2 ^ 63
  repeats : entry.repeated = true ↔ entry.data = []

private theorem ofNat_eq_zero_iff {n : Nat} (small : n < 2 ^ 63) :
    Int64.ofNat n = 0 ↔ n = 0 := by
  rw [← Int64.toInt_inj, Int64.toInt_ofNat_of_lt small]
  simp

theorem takeEntry_append {entry : WeightsEntry} (readable : Readable entry) (rest : Bytes) :
    takeEntry entry.tensor entry.dims (wordBytes (entry.data.map Binary32.bits) ++ rest) =
      .ok (entry, rest) := by
  obtain ⟨tensor, dims, data, repeated⟩ := entry
  obtain ⟨count, small, repeats⟩ := readable
  dsimp only at count small repeats ⊢
  have elements := Int64.toInt_ofNat_of_lt small
  have zero := ofNat_eq_zero_iff small
  unfold takeEntry
  rw [count]
  by_cases empty : data = []
  · subst empty
    simp [repeats.mpr rfl, wordBytes]
  · have some : data.length ≠ 0 := fun none => empty (List.length_eq_zero_iff.mp none)
    have positive : ¬ Int64.ofNat data.length < 0 := by
      rw [Int64.lt_iff_toInt_lt, elements, Int64.toInt_zero]
      omega
    have length : (data.map Binary32.bits).length = data.length := List.length_map ..
    have read := takeWords_append length rest
    have fresh : repeated = false := by simpa [empty] using repeats
    simp only [zero, some, if_false, positive, elements, Int.toNat_natCast, read, List.map_map,
      fresh]
    simp [Function.comp_def]

/-- The ranks with which a layout announces entries: they ask for as many fields as there are. -/
def Announces : List Int → List WeightsEntry → Prop :=
  List.Forall₂ fun rank entry => dimensionCount? rank = some entry.dims.length

theorem takeEntries_append {ranks : List Int} {entries : List WeightsEntry}
    (announced : Announces ranks entries) (readable : ∀ entry ∈ entries, Readable entry)
    (rest : Bytes) :
    takeEntries (entries.map WeightsEntry.tensor) ranks
      (entries.flatMap WeightsEntry.bytes ++ rest) = .ok (entries, rest) := by
  induction announced with
  | nil => rfl
  | @cons rank entry ranks entries fields _ ih =>
    have first := readable entry (List.mem_cons_self ..)
    have others := ih fun other member => readable other (List.mem_cons_of_mem _ member)
    rw [List.map_cons, List.flatMap_cons, List.append_assoc, WeightsEntry.bytes, List.append_assoc,
      takeEntries, fields]
    simp only [takeWords_append rfl, Except.mapError, bind, Except.bind, takeEntry_append first,
      others, pure, Except.pure]

/-- A layer together with the layout that announces it. -/
structure Announced (layout : LayerLayout) (layer : WeightsLayer) : Prop where
  name : layout.name = layer.name
  op : layout.op = layer.op
  tensors : layout.tensors = layer.entries.map WeightsEntry.tensor
  ranks : Announces layout.ranks layer.entries
  zeroBias : layout.zeroBias = layer.zeroBias

theorem takeZero_append (rest : Bytes) : takeZero (Bytes.ofWord 0 ++ rest) = .ok rest := by
  rw [takeZero, takeWord_append]
  rfl

theorem takeLayer_append {layout : LayerLayout} {layer : WeightsLayer}
    (announced : Announced layout layer) (named : OneLine layer.name) (operator : OneLine layer.op)
    (readable : ∀ entry ∈ layer.entries, Readable entry) (rest : Bytes) :
    takeLayer layout (layer.bytes ++ rest) = .ok (layer, rest) := by
  obtain ⟨name, op, tensors, ranks, zeroBias⟩ := layout
  obtain ⟨rfl, rfl, rfl, ranked, rfl⟩ := announced
  dsimp only at ranked
  simp only [takeLayer, WeightsLayer.bytes, List.append_assoc, takeLine_append named,
    takeLine_append operator, Except.mapError, bind, Except.bind, ne_eq, not_true_eq_false,
    or_self, if_false, pure, Except.pure, takeEntries_append ranked readable]
  cases layer with
  | mk name op entries zeroBias => cases zeroBias <;> simp [takeZero_append]

theorem takeLayers_append {layouts : List LayerLayout} {layers : List WeightsLayer}
    (announced : List.Forall₂ Announced layouts layers)
    (lines : ∀ layer ∈ layers, OneLine layer.name ∧ OneLine layer.op)
    (readable : ∀ layer ∈ layers, ∀ entry ∈ layer.entries, Readable entry) (rest : Bytes) :
    takeLayers layouts (layers.flatMap WeightsLayer.bytes ++ rest) = .ok (layers, rest) := by
  induction announced with
  | nil => rfl
  | @cons layout layer layouts layers head _ ih =>
    obtain ⟨named, operator⟩ := lines layer (List.mem_cons_self ..)
    have first := takeLayer_append head named operator (readable layer (List.mem_cons_self ..))
    have others := ih (fun other member => lines other (List.mem_cons_of_mem _ member))
      (fun other member => readable other (List.mem_cons_of_mem _ member))
    rw [List.flatMap_cons, List.append_assoc, takeLayers, first]
    simp only [Except.mapError, bind, Except.bind, others, pure, Except.pure]

/-- A file that reads back under a layout: the layout announces its layers, its texts fit on their
lines, its layers are few enough to be counted, and its entries read back. -/
structure Matches (layout : WeightsLayout) (file : WeightsFile) : Prop where
  model : layout.model = file.model
  announced : List.Forall₂ Announced layout.layers file.layers
  title : OneLine file.model
  few : file.layers.length < 2 ^ 32
  lines : ∀ layer ∈ file.layers, OneLine layer.name ∧ OneLine layer.op
  readable : ∀ layer ∈ file.layers, ∀ entry ∈ layer.entries, Readable entry

/-- Nothing behind the end marker is read. -/
theorem decode_append {layout : WeightsLayout} {file : WeightsFile}
    (described : Matches layout file) (rest : Bytes) :
    decode layout (file.bytes ++ rest) = .ok file := by
  obtain ⟨name, layouts⟩ := layout
  obtain ⟨rfl, announced, title, few, lines, readable⟩ := described
  have magic (rest : Bytes) : takeBytes weightsMagic.length (weightsMagic ++ rest) =
      .ok (weightsMagic, rest) := takeBytes_append rfl rest
  have count : (UInt32.ofNat file.layers.length).toNat = layouts.length := by
    rw [announced.length_eq, UInt32.toNat_ofNat_of_lt' few]
  simp only [decode, WeightsFile.bytes, List.append_assoc, magic, takeLine_append title,
    takeWord_append, takeLayers_append announced lines readable, Except.mapError, bind, Except.bind,
    ne_eq, not_true_eq_false, if_false, List.headD_cons, count, pure, Except.pure,
    List.take_left']

/-- A file reads back under any layout that announces its layers. -/
theorem decode_bytes {layout : WeightsLayout} {file : WeightsFile}
    (model : layout.model = file.model)
    (announced : List.Forall₂ Announced layout.layers file.layers)
    (title : OneLine file.model) (few : file.layers.length < 2 ^ 32)
    (lines : ∀ layer ∈ file.layers, OneLine layer.name ∧ OneLine layer.op)
    (readable : ∀ layer ∈ file.layers, ∀ entry ∈ layer.entries, Readable entry) :
    decode layout file.bytes = .ok file := by
  have whole := decode_append ⟨model, announced, title, few, lines, readable⟩ []
  rwa [List.append_nil] at whole

/-! ## The contents of nodes -/

/-- A tensor that fits into the file: its dimensions are positive words, its exact element count is
a machine count, and it has so many elements. -/
structure Fits (value : Tensor) : Prop where
  dims : ∀ dim ∈ value.dims, 1 ≤ dim.toInt ∧ dim.toInt < 2 ^ 32
  count : (value.dims.map Int64.toInt).prod < 2 ^ 63
  full : (value.data.length : Int) = (value.dims.map Int64.toInt).prod

/-- Nodes whose weights file can be read back. -/
structure Writable (model : String) (nodes : List Node) : Prop where
  title : OneLine model
  few : (nodes.filter Node.holdsWeights).length < 2 ^ 32
  lines : ∀ node ∈ nodes.filter Node.holdsWeights, OneLine node.name ∧ OneLine node.op
  fits : ∀ node ∈ nodes.filter Node.holdsWeights, ∀ input ∈ node.constants.entries, Fits input.2

private theorem toNat_lowWord {dim : Int64} (range : 1 ≤ dim.toInt ∧ dim.toInt < 2 ^ 32) :
    ((lowWord dim).toNat : Int) = dim.toInt := by
  have natural : dim.toUInt64.toNat = dim.toInt.toNat := by
    rw [Int64.toNat_toUInt64_of_le, Int64.toNatClampNeg]
    rw [Int64.le_iff_toInt_le, Int64.toInt_zero]
    omega
  rw [lowWord, UInt64.toNat_toUInt32, natural]
  omega

private theorem fieldProduct_eq (fields : List UInt32) :
    fieldProduct fields = Int64.ofNat (fields.map UInt32.toNat).prod := by
  have general (start : Nat) :
      fields.foldl (fun product dim => product * Int64.ofNat dim.toNat) (Int64.ofNat start) =
        Int64.ofNat (start * (fields.map UInt32.toNat).prod) := by
    induction fields generalizing start with
    | nil => simp
    | cons field rest ih =>
      rw [List.foldl_cons, ← Int64.ofNat_mul, ih, List.map_cons, List.prod_cons, Nat.mul_assoc]
  simpa [fieldProduct] using general 1

/-- The fields of dimensions that are positive words multiply to the exact element count. -/
private theorem prod_fields {dims : Shape} {fields : List UInt32}
    (known : fields? dims = some fields)
    (range : ∀ dim ∈ dims, 1 ≤ dim.toInt ∧ dim.toInt < 2 ^ 32) :
    (((fields.map UInt32.toNat).prod : Nat) : Int) = (dims.map Int64.toInt).prod := by
  have exact : ∀ dim ∈ dims, ((lowWord dim).toNat : Int) = dim.toInt :=
    fun dim member => toNat_lowWord (range dim member)
  unfold fields? at known
  split at known <;> simp only [Option.some.injEq, reduceCtorEq] at known <;> subst known <;>
    simp_all

private theorem prod_pos {dims : Shape} (range : ∀ dim ∈ dims, 1 ≤ dim.toInt ∧ dim.toInt < 2 ^ 32) :
    0 < (dims.map Int64.toInt).prod := by
  induction dims with
  | nil => simp
  | cons dim rest ih =>
    simp only [List.forall_mem_cons] at range
    rw [List.map_cons, List.prod_cons]
    exact Int.mul_pos (by omega) (ih range.2)

/-- The machine product of zero fields is zero, as long as there is one. -/
private theorem fieldProduct_zeros {fields : List UInt32} (some : fields ≠ []) :
    fieldProduct (fields.map fun _ => 0) = 0 := by
  obtain ⟨field, rest, rfl⟩ := List.exists_cons_of_ne_nil some
  simp [fieldProduct_eq]

private theorem readable_entryOf (earlier : List String) {input : String × Tensor}
    {fields : List UInt32} (known : fields? input.2.dims = some fields) (fits : Fits input.2) :
    Readable (entryOf earlier input) := by
  simp only [entryOf, known, Option.getD_some]
  split
  · exact ⟨fieldProduct_zeros (fields?_ne_nil known), by simp, by simp⟩
  · have product := prod_fields known fits.dims
    have positive := prod_pos fits.dims
    have full := fits.full
    have count := fits.count
    have length : input.2.singles.length = input.2.data.length := List.length_map ..
    have elements : (fields.map UInt32.toNat).prod = input.2.data.length := by omega
    refine ⟨?_, ?_, ?_⟩
    · rw [fieldProduct_eq, elements, length]
    · dsimp only
      omega
    · rw [← List.length_eq_zero_iff, length]
      simp only [Bool.false_eq_true, false_iff]
      omega

private theorem dims_entryOf (earlier : List String) {input : String × Tensor}
    {fields : List UInt32} (known : fields? input.2.dims = some fields) :
    dimensionCount? input.2.rank = some (entryOf earlier input).dims.length := by
  rw [Tensor.rank, dimensionCount?_length, known, Option.map_some, entryOf, known]
  split <;> simp

private theorem announces_entriesOf (earlier : List String) {inputs : List (String × Tensor)}
    (encodable : ∀ input ∈ inputs, ∃ fields, fields? input.2.dims = some fields) :
    Announces (inputs.map fun input => (input.2.rank : Int)) (entriesOf earlier inputs) := by
  induction inputs generalizing earlier with
  | nil => exact .nil
  | cons input rest ih =>
    obtain ⟨⟨fields, known⟩, others⟩ := List.forall_mem_cons.mp encodable
    exact .cons (dims_entryOf earlier known) (ih _ others)

theorem tensor_entryOf (earlier : List String) (input : String × Tensor) :
    (entryOf earlier input).tensor = input.1 := by
  rw [entryOf]
  split <;> rfl

theorem map_tensor_entriesOf (earlier : List String) (inputs : List (String × Tensor)) :
    (entriesOf earlier inputs).map WeightsEntry.tensor = inputs.map Prod.fst := by
  induction inputs generalizing earlier with
  | nil => rfl
  | cons input rest ih => rw [entriesOf, List.map_cons, ih, tensor_entryOf, List.map_cons]

private theorem readable_entriesOf (earlier : List String) {inputs : List (String × Tensor)}
    (encodable : ∀ input ∈ inputs, ∃ fields, fields? input.2.dims = some fields)
    (fits : ∀ input ∈ inputs, Fits input.2) :
    ∀ entry ∈ entriesOf earlier inputs, Readable entry := by
  induction inputs generalizing earlier with
  | nil => simp [entriesOf]
  | cons input rest ih =>
    obtain ⟨⟨fields, known⟩, others⟩ := List.forall_mem_cons.mp encodable
    obtain ⟨first, remaining⟩ := List.forall_mem_cons.mp fits
    rw [entriesOf, List.forall_mem_cons]
    exact ⟨readable_entryOf earlier known first, ih _ others remaining⟩

private theorem announced_layersOf (earlier : List String) {nodes : List Node}
    (encodable : ∀ node ∈ nodes, Encodable node) :
    List.Forall₂ Announced (nodes.map layoutOf) (layersOf earlier nodes) := by
  induction nodes generalizing earlier with
  | nil => exact .nil
  | cons node rest ih =>
    obtain ⟨first, others⟩ := List.forall_mem_cons.mp encodable
    refine .cons ⟨rfl, rfl, ?_, announces_entriesOf _ first, rfl⟩ (ih _ others)
    exact (map_tensor_entriesOf _ _).symm

/-- Every layer of the contents comes from a node. -/
theorem exists_of_mem_layersOf {earlier : List String} {nodes : List Node} {layer : WeightsLayer}
    (member : layer ∈ layersOf earlier nodes) :
    ∃ node ∈ nodes, ∃ before, layer = layerOf before node := by
  induction nodes generalizing earlier with
  | nil => simp [layersOf] at member
  | cons node rest ih =>
    rcases List.mem_cons.mp member with rfl | later
    · exact ⟨node, List.mem_cons_self .., earlier, rfl⟩
    · obtain ⟨other, present, before, same⟩ := ih later
      exact ⟨other, List.mem_cons_of_mem _ present, before, same⟩

/-- A weights file has a layout exactly when it is written, and what is written for nodes whose
texts and tensors fit reads back as its contents. -/
theorem decode_encode (model : String) (nodes : List Node) :
    ((∃ layout, WeightsLayout.ofNodes model nodes = .ok layout) ↔
      ∃ bytes, encode model nodes = .ok bytes) ∧
    ∀ layout bytes, WeightsLayout.ofNodes model nodes = .ok layout →
      encode model nodes = .ok bytes → Writable model nodes →
        decode layout bytes = .ok (contents model nodes) := by
  constructor
  · simp [ofNodes_eq_ok_iff, encode_eq_ok_iff]
  · intro layout bytes laid written writable
    obtain ⟨encodable, rfl⟩ := (ofNodes_eq_ok_iff model nodes layout).mp laid
    obtain ⟨-, rfl⟩ := (encode_eq_ok_iff model nodes bytes).mp written
    apply decode_bytes rfl (announced_layersOf [] encodable) writable.title
    · simpa [contents] using writable.few
    · intro layer member
      obtain ⟨node, present, before, rfl⟩ := exists_of_mem_layersOf member
      exact writable.lines node present
    · intro layer member
      obtain ⟨node, present, before, rfl⟩ := exists_of_mem_layersOf member
      exact readable_entriesOf before (encodable node present) (writable.fits node present)

/-- Two layers that share a kernel. -/
def sharedKernel : List Node :=
  let kernel : Tensor := { shape := some [1, 2], type := .float32, data := [.ofInt 1, .ofInt 2] }
  let bias : Tensor := { shape := some [1], type := .float32, data := [.ofInt 3] }
  [ { id := 0, name := "first", op := "Gemm", attributes := .empty, inputs := ["x", "w", "b"],
      outputs := ["y"], constants := ⟨[("w", kernel), ("b", bias)]⟩, parents := [],
      children := [1] },
    { id := 1, name := "second", op := "MatMul", attributes := .empty, inputs := ["y", "w"],
      outputs := ["z"], constants := ⟨[("w", kernel)]⟩, parents := [0], children := [] } ]

private theorem writable_sharedKernel : Writable "net" sharedKernel where
  title := by unfold OneLine; decide
  few := by decide
  lines := by unfold OneLine; decide
  fits := by
    have dims : ∀ node ∈ sharedKernel.filter Node.holdsWeights,
        ∀ input ∈ node.constants.entries, (input.2.dims.all fun dim =>
          1 ≤ dim.toInt ∧ dim.toInt < 2 ^ 32) = true := by decide +kernel
    have counts : ∀ node ∈ sharedKernel.filter Node.holdsWeights,
        ∀ input ∈ node.constants.entries, (input.2.dims.map Int64.toInt).prod < 2 ^ 63 ∧
          (input.2.data.length : Int) = (input.2.dims.map Int64.toInt).prod := by decide +kernel
    intro node present input member
    obtain ⟨count, full⟩ := counts node present input member
    refine ⟨fun dim listed => ?_, count, full⟩
    exact of_decide_eq_true (List.all_eq_true.mp (dims node present input member) dim listed)

/-- The second layer comes back as a repetition, followed by a count of zero biases. -/
theorem decode_encode_sharedKernel : ∃ layout bytes,
    WeightsLayout.ofNodes "net" sharedKernel = .ok layout ∧
      encode "net" sharedKernel = .ok bytes ∧ Writable "net" sharedKernel ∧
      decode layout bytes = .ok (contents "net" sharedKernel) ∧
      (contents "net" sharedKernel).layers.map (fun layer =>
        (layer.entries.map WeightsEntry.repeated, layer.zeroBias)) =
          [([false, false], false), ([true], true)] :=
  ⟨_, _, rfl, rfl, writable_sharedKernel,
    (decode_encode "net" sharedKernel).2 _ _ rfl rfl writable_sharedKernel, by decide⟩

end Weights

end StaticNet
