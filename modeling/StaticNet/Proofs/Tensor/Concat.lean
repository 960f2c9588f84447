import Mathlib.Algebra.BigOperators.Ring.List
import Mathlib.Algebra.Order.BigOperators.Group.List
import Mathlib.Algebra.Order.Group.Nat
import StaticNet.Proofs.Shape.Concat
import StaticNet.Proofs.Tensor.Access
import StaticNet.Proofs.Tensor.Chunks

/-! # Concatenated tensors

Tensors that are concatenated have the dimensions before and after the axis in common, so that each
is a row of chunks, one for every block before the axis. Each block of the result has the chunks of
the tensors side by side.
-/

namespace StaticNet.Tensor

open Shape (size exactCount elementCount)

/-- The size of a tensor on an axis. -/
def axisSize (axis : Int64) (tensor : Tensor) : Nat :=
  match Shape.axisIndex axis tensor.rank with
  | .ok position => (tensor.dims.getD position 0).toInt.toNat
  | .error _ => 0

/-- A well-formed tensor of some size on an axis, with given dimensions before and after it. -/
structure Spans (before after : Shape) (extent : Nat) (tensor : Tensor) : Prop where
  dims : tensor.dims = before ++ Int64.ofNat extent :: after
  fits : extent < 2 ^ 63
  wellFormed : tensor.WellFormed

variable {tensor : Tensor} {before after : Shape} {extent : Nat} {axis : Int64}

namespace Spans

theorem length_eq (spans : tensor.Spans before after extent) :
    tensor.data.length = before.size * (extent * after.size) := by
  rw [spans.wellFormed.length_eq, spans.dims, Shape.size_append, Shape.size_cons,
    toInt_toNat_ofNat spans.fits]

theorem natural (spans : tensor.Spans before after extent) :
    (∀ dim ∈ before, 0 ≤ dim) ∧ 0 ≤ Int64.ofNat extent ∧ ∀ dim ∈ after, 0 ≤ dim := by
  have natural := spans.wellFormed.natural
  rw [spans.dims, List.forall_mem_append, List.forall_mem_cons] at natural
  exact natural

theorem shape_eq (spans : tensor.Spans before after extent) : tensor.shape = some tensor.dims := by
  have dims := spans.dims
  rw [Tensor.dims] at dims ⊢
  cases stated : tensor.shape with
  | none => simp [stated] at dims
  | some shape => rfl

theorem elementCount_drop (spans : tensor.Spans before after extent) :
    elementCount (tensor.dims.drop before.length) = Int64.ofNat (extent * after.size) := by
  rw [spans.dims, List.drop_left, Shape.elementCount_eq_ofNat
    (List.forall_mem_cons.mpr spans.natural.2), Shape.size_cons, toInt_toNat_ofNat spans.fits]

end Spans

theorem axisSize_eq {dim : Int64} (dims : tensor.dims = before ++ dim :: after)
    (found : Shape.axisIndex axis tensor.rank = .ok before.length) :
    tensor.axisSize axis = dim.toInt.toNat := by
  rw [axisSize, found, dims]
  simp

/-- A chunk of a tensor's data as a slice. -/
theorem slice_chunk {size count number : Nat} (length : tensor.data.length = count * size)
    (below : number < count) (fits : tensor.data.length < 2 ^ 63) :
    tensor.strip.slice (Int64.ofNat (number * size)) (Int64.ofNat ((number + 1) * size)) =
      .ok (chunk size tensor.data number) := by
  have inside : (number + 1) * size ≤ tensor.data.length :=
    length ▸ Nat.mul_le_mul_right size below
  rw [slice_eq_ok (Nat.mul_le_mul_right size (Nat.le_add_right number 1)) inside
    (lt_of_le_of_lt inside fits), chunk, ← Nat.sub_mul, Nat.add_sub_cancel_left, Nat.one_mul]

/-! ## Concatenation -/

/-- The chunks of the tensors in one block, read from their data. -/
def readBlock (parts : List (Strip × Int64)) (block : Int64) :
    Except TensorError (List (List Binary64)) :=
  parts.mapM fun (strip, chunk) => strip.slice (block * chunk) ((block + 1) * chunk)

/-- The blocks of a concatenation, none where the tensors have no elements behind the axis. -/
def readBlocks (outer : Int64) (parts : List (Strip × Int64)) :
    Except TensorError (List (List (List Binary64))) :=
  tabulate (if parts.all (·.2 = 0) then 0 else outer.toInt.toNat) (readBlock parts)

section concat

variable {tensors : List Tensor} {joined : Tensor}

theorem concat_eq_ok (done : Tensor.concat tensors axis = .ok joined) :
    ∃ dims position room blocks, Shape.concat (tensors.map Tensor.dims) axis = .ok dims ∧
      Shape.axisIndex axis dims.length = .ok position ∧
      reserve 8 dims.elementCount = .ok room ∧
      readBlocks (elementCount (dims.take position)) (tensors.map fun tensor =>
        (tensor.strip, elementCount (tensor.dims.drop position))) = .ok blocks ∧
      joined.shape = some dims ∧ joined.data = blocks.flatten.flatten := by
  obtain ⟨dims, found, done⟩ := Outcome.bind_eq_ok_iff.mp done
  obtain ⟨position, located, done⟩ := Outcome.bind_eq_ok_iff.mp done
  obtain ⟨room, reserved, done⟩ := Outcome.bind_eq_ok_iff.mp done
  obtain ⟨blocks, filled, result⟩ := Outcome.bind_eq_ok_iff.mp done
  cases result
  exact ⟨dims, position, room, blocks, Outcome.mapError_eq_ok_iff.mp found,
    Outcome.mapError_eq_ok_iff.mp located, reserved, filled, rfl, rfl⟩

private theorem foldl_add_eq_ofNat {sizes : List Int64} (natural : ∀ size ∈ sizes, 0 ≤ size)
    (start : Nat) : sizes.foldl (· + ·) (Int64.ofNat start) =
      Int64.ofNat (start + (sizes.map fun size => size.toInt.toNat).sum) := by
  induction sizes generalizing start with
  | nil => rfl
  | cons size sizes ih =>
    obtain ⟨first, others⟩ := List.forall_mem_cons.mp natural
    rw [List.foldl_cons, ← Shape.ofNat_toNat first, ← Int64.ofNat_add, ih others,
      Shape.ofNat_toNat first, List.map_cons, List.sum_cons, Nat.add_assoc]

/-- Well-formed tensors that are concatenated span their sizes on the axis, and the result has the
sum of the sizes. -/
theorem spans_of_concat {dims : Shape} (wellFormed : ∀ tensor ∈ tensors, tensor.WellFormed)
    (done : Shape.concat (tensors.map Tensor.dims) axis = .ok dims) :
    ∃ before after, (∀ tensor ∈ tensors, tensor.Spans before after (tensor.axisSize axis)) ∧
      dims = before ++ Int64.ofNat (tensors.map (axisSize axis)).sum :: after ∧
      Shape.axisIndex axis dims.length = .ok before.length := by
  obtain ⟨before, after, sizes, shapes, rfl, found⟩ := Shape.concat_eq_ok done
  have shaped : ∀ tensor ∈ tensors, ∃ size, tensor.dims = before ++ size :: after := by
    intro tensor member
    have listed := List.mem_map_of_mem (f := Tensor.dims) member
    rw [shapes] at listed
    obtain ⟨size, -, same⟩ := List.mem_map.mp listed
    exact ⟨size, same.symm⟩
  have located {tensor : Tensor} {size : Int64} (dims : tensor.dims = before ++ size :: after) :
      tensor.axisSize axis = size.toInt.toNat := by
    refine axisSize_eq dims ?_
    rw [rank, dims]
    simpa using found
  have natural {tensor : Tensor} (member : tensor ∈ tensors) {size : Int64}
      (dims : tensor.dims = before ++ size :: after) : 0 ≤ size :=
    (wellFormed tensor member).natural size (by simp [dims])
  refine ⟨before, after, fun tensor member => ?_, ?_, found⟩
  · obtain ⟨size, dims⟩ := shaped tensor member
    rw [located dims]
    refine ⟨?_, ?_, wellFormed tensor member⟩
    · rw [dims, Shape.ofNat_toNat (natural member dims)]
    · have := size.toInt_lt
      omega
  · have sizesNatural : ∀ size ∈ sizes, 0 ≤ size := by
      intro size member
      have listed := List.mem_map_of_mem (f := fun size => before ++ size :: after) member
      rw [← shapes] at listed
      obtain ⟨tensor, member, dims⟩ := List.mem_map.mp listed
      exact natural member dims
    have same : tensors.map (axisSize axis) = sizes.map fun size => size.toInt.toNat := by
      have own := congrArg
        (List.map fun shape : Shape => (shape.getD before.length 0).toInt.toNat) shapes
      rw [List.map_map, List.map_map] at own
      calc tensors.map (axisSize axis)
          = tensors.map fun tensor => (tensor.dims.getD before.length 0).toInt.toNat := by
            refine List.map_congr_left fun tensor member => ?_
            obtain ⟨size, dims⟩ := shaped tensor member
            rw [located dims, dims]
            simp
        _ = sizes.map fun size => size.toInt.toNat := own.trans (by simp [Function.comp_def])
    have summed := foldl_add_eq_ofNat sizesNatural 0
    rw [Nat.zero_add] at summed
    rw [same, ← summed]
    rfl

/-- The chunks of the tensors in one block. -/
def blockParts (axis : Int64) (inner : Nat) (tensors : List Tensor) (number : Nat) :
    List (List Binary64) :=
  tensors.map fun tensor => chunk (tensor.axisSize axis * inner) tensor.data number

/-- The blocks of a concatenation. -/
def joinedRows (axis : Int64) (outer inner : Nat) (tensors : List Tensor) : List (List Binary64) :=
  (List.range outer).map fun number => (blockParts axis inner tensors number).flatten

theorem axisSize_le_sum (member : tensor ∈ tensors) :
    tensor.axisSize axis ≤ (tensors.map (axisSize axis)).sum :=
  List.le_sum_of_mem (List.mem_map_of_mem member)

section layout

variable (spans : ∀ tensor ∈ tensors, tensor.Spans before after (tensor.axisSize axis))
  (fits : before.size * ((tensors.map (axisSize axis)).sum * after.size) < 2 ^ 63)

include spans

theorem length_blockParts {number : Nat} (below : number < before.size) :
    (blockParts axis after.size tensors number).map List.length =
      tensors.map fun tensor => tensor.axisSize axis * after.size := by
  rw [blockParts, List.map_map]
  exact List.map_congr_left fun tensor member =>
    length_chunk (spans tensor member).length_eq below

theorem length_of_mem_joinedRows :
    ∀ row ∈ joinedRows axis before.size after.size tensors,
      row.length = (tensors.map (axisSize axis)).sum * after.size := by
  refine List.forall_mem_map.mpr fun number member => ?_
  rw [List.length_flatten, length_blockParts spans (List.mem_range.mp member),
    List.sum_map_mul_right]

theorem length_flatten_joinedRows :
    (joinedRows axis before.size after.size tensors).flatten.length =
      before.size * ((tensors.map (axisSize axis)).sum * after.size) := by
  rw [length_flatten_of_width (length_of_mem_joinedRows spans), joinedRows, List.length_map,
    List.length_range]

/-- A tensor's chunk, cut out of the block where it lies. -/
theorem take_drop_joinedRows {index number : Nat} (listed : tensors[index]? = some tensor)
    (below : number < before.size) :
    ((joinedRows axis before.size after.size tensors).flatten.drop
        ((number * (tensors.map (axisSize axis)).sum +
          ((tensors.take index).map (axisSize axis)).sum) * after.size)).take
      (tensor.axisSize axis * after.size) =
        chunk (tensor.axisSize axis * after.size) tensor.data number := by
  have row : (joinedRows axis before.size after.size tensors)[number]? =
      some (blockParts axis after.size tensors number).flatten := by
    rw [joinedRows, List.getElem?_map, List.getElem?_range below]
    rfl
  have part : (blockParts axis after.size tensors number)[index]? =
      some (chunk (tensor.axisSize axis * after.size) tensor.data number) := by
    rw [blockParts, List.getElem?_map, listed]
    rfl
  have offset : ((blockParts axis after.size tensors number).take index).flatten.length =
      ((tensors.take index).map (axisSize axis)).sum * after.size := by
    rw [List.length_flatten, List.map_take, length_blockParts spans below, ← List.map_take,
      List.sum_map_mul_right]
  have length := length_chunk (spans tensor (List.mem_of_getElem? listed)).length_eq below
  have cut := take_drop_flatten part
    ((joinedRows axis before.size after.size tensors).drop (number + 1)).flatten
  rw [offset, length] at cut
  rw [Nat.add_mul, Nat.mul_assoc, ← List.drop_drop,
    drop_mul_flatten (length_of_mem_joinedRows spans) row]
  exact cut

include fits

theorem readBlock_eq_ok {number : Nat} (below : number < before.size) :
    readBlock (tensors.map fun tensor =>
        (tensor.strip, elementCount (tensor.dims.drop before.length))) (Int64.ofNat number) =
      .ok (blockParts axis after.size tensors number) := by
  rw [readBlock, List.mapM_map]
  refine Outcome.mapM_eq_ok fun tensor member => ?_
  have own := spans tensor member
  have small : tensor.data.length < 2 ^ 63 := by
    rw [own.length_eq]
    exact lt_of_le_of_lt
      (Nat.mul_le_mul_left _ (Nat.mul_le_mul_right _ (axisSize_le_sum member))) fits
  have next : Int64.ofNat number + 1 = Int64.ofNat (number + 1) := (Int64.ofNat_add number 1).symm
  rw [Function.comp_apply, own.elementCount_drop]
  dsimp only
  rw [next, ← Int64.ofNat_mul, ← Int64.ofNat_mul]
  exact slice_chunk own.length_eq below small

/-- A concatenation whose chunks all count as empty has no elements. -/
theorem count_eq_zero_of_all
    (empty : (tensors.map fun tensor =>
      (tensor.strip, elementCount (tensor.dims.drop before.length))).all (·.2 = 0) = true) :
    before.size * ((tensors.map (axisSize axis)).sum * after.size) = 0 := by
  rcases Nat.eq_zero_or_pos before.size with zero | positive
  · rw [zero, Nat.zero_mul]
  rw [← List.sum_map_mul_right, List.sum_eq_zero, Nat.mul_zero]
  refine List.forall_mem_map.mpr fun tensor member => ?_
  have small : tensor.axisSize axis * after.size < 2 ^ 63 := by
    refine lt_of_le_of_lt ?_ fits
    exact (Nat.mul_le_mul_right _ (axisSize_le_sum member)).trans
      (Nat.le_mul_of_pos_left _ positive)
  have zero : Int64.ofNat (tensor.axisSize axis * after.size) = 0 := by
    rw [← (spans tensor member).elementCount_drop]
    exact of_decide_eq_true (List.all_eq_true.mp empty _ (List.mem_map_of_mem member))
  rw [← toInt_toNat_ofNat small, zero]
  rfl

theorem flatten_readBlocks {blocks : List (List (List Binary64))}
    (beforeNatural : ∀ dim ∈ before, 0 ≤ dim) (beforeFits : before.size < 2 ^ 63)
    (read : readBlocks (elementCount before) (tensors.map fun tensor =>
      (tensor.strip, elementCount (tensor.dims.drop before.length))) = .ok blocks) :
    blocks.flatten.flatten = (joinedRows axis before.size after.size tensors).flatten := by
  rw [readBlocks, Shape.elementCount_eq_ofNat beforeNatural, toInt_toNat_ofNat beforeFits] at read
  split at read
  · next empty =>
    cases read
    have none := (length_flatten_joinedRows spans).trans (count_eq_zero_of_all spans fits empty)
    exact (List.eq_nil_of_length_eq_zero none).symm
  · rw [tabulate_eq_ok fun number below => readBlock_eq_ok spans fits below] at read
    cases read
    rw [List.flatten_flatten, List.map_map]
    rfl

end layout

/-- What holds of a concatenation of well-formed tensors whose counts do not wrap around. -/
theorem joined_of_concat
    (wellFormed : ∀ tensor ∈ tensors, tensor.WellFormed)
    (done : Tensor.concat tensors axis = .ok joined)
    (sizesFit : (tensors.map (axisSize axis)).sum < 2 ^ 63)
    (countsFit : ∀ axes, exactCount (joined.dims.take axes) < 2 ^ 63 ∧
      exactCount (joined.dims.drop axes) < 2 ^ 63) :
    ∃ before after, (∀ tensor ∈ tensors, tensor.Spans before after (tensor.axisSize axis)) ∧
      joined.Spans before after (tensors.map (axisSize axis)).sum ∧
      Shape.axisIndex axis joined.rank = .ok before.length ∧
      joined.data = (joinedRows axis before.size after.size tensors).flatten ∧
      joined.data.length * 8 ≤ largestReservation ∧ before.size < 2 ^ 63 ∧ after.size < 2 ^ 63 := by
  obtain ⟨dims, position, room, blocks, shapes, found, reserved, read, shape, data⟩ :=
    concat_eq_ok done
  obtain ⟨before, after, spans, rfl, located⟩ := spans_of_concat wellFormed shapes
  obtain rfl := Except.ok.inj (found.symm.trans located)
  have joinedDims : joined.dims =
      before ++ Int64.ofNat (tensors.map (axisSize axis)).sum :: after := by
    rw [Tensor.dims, shape]
    rfl
  have some : ∃ tensor, tensor ∈ tensors := by
    cases tensors with
    | nil => cases shapes
    | cons tensor rest => exact ⟨tensor, List.mem_cons_self ..⟩
  obtain ⟨tensor, member⟩ := some
  obtain ⟨beforeNatural, -, afterNatural⟩ := (spans tensor member).natural
  have natural : ∀ dim ∈ joined.dims, 0 ≤ dim := by
    rw [joinedDims, List.forall_mem_append, List.forall_mem_cons]
    exact ⟨beforeNatural, ofNat_nonneg sizesFit, afterNatural⟩
  have count : joined.dims.size =
      before.size * ((tensors.map (axisSize axis)).sum * after.size) := by
    rw [joinedDims, Shape.size_append, Shape.size_cons, toInt_toNat_ofNat sizesFit]
  have fits : joined.dims.size < 2 ^ 63 := Shape.size_lt natural (countsFit 0).2
  have beforeFits : before.size < 2 ^ 63 := by
    refine Shape.size_lt beforeNatural ?_
    have counted := (countsFit before.length).1
    rwa [joinedDims, List.take_left] at counted
  have afterFits : after.size < 2 ^ 63 := by
    refine Shape.size_lt afterNatural ?_
    have counted := (countsFit (before.length + 1)).2
    rwa [joinedDims, ← List.drop_drop, List.drop_left, List.drop_one, List.tail_cons] at counted
  rw [List.take_left] at read
  have laid := flatten_readBlocks spans (count ▸ fits) beforeNatural beforeFits read
  rw [← data] at laid
  have length : joined.data.length = joined.dims.size := by
    rw [laid, length_flatten_joinedRows spans, count]
  refine ⟨before, after, spans, ⟨joinedDims, sizesFit, natural, ?_⟩, ?_, laid, ?_, beforeFits,
    afterFits⟩
  · rw [Shape.exactCount_eq_size natural, length]
  · rw [rank, joinedDims]
    exact located
  · rw [← joinedDims, Shape.elementCount_eq_ofNat natural, reserve_eq_ok_iff,
      toInt_toNat_ofNat fits] at reserved
    rw [length]
    exact reserved.2.1

end concat

end StaticNet.Tensor
