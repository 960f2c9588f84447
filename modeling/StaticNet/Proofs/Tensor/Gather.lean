import StaticNet.Proofs.Tensor.Concat

/-! # Gathering undoes concatenation

Gathering a run of indices along an axis cuts the run out of every block before the axis. Where the
run is the part of one tensor in a concatenation, this gives the tensor back.
-/

namespace StaticNet.Tensor

open Shape (exactCount elementCount)

variable {tensor indices : Tensor} {before after : Shape} {axis : Int64} {start count : Nat}

/-! ## Runs of indices -/

/-- The slices of a tensor at the given indices in one block. -/
def gatherBlock (strip : Strip) (size inner : Int64) (chosen : List Int64) (block : Int64) :
    Except TensorError (List (List Binary64)) :=
  chosen.mapM fun index => do
    let start := (block * size + index) * inner
    strip.slice start (start + inner)

/-- Indices within the axis are taken as they are. -/
theorem mapM_normalizeIndex {total : Nat}
    (words : indices.words = (List.range' start count).map Int64.ofNat)
    (inside : start + count ≤ total) (fits : total < 2 ^ 63) :
    indices.data.mapM (normalizeIndex (Int64.ofNat total)) =
      .ok ((List.range' start count).map Int64.ofNat) := by
  rw [← words, Tensor.words]
  refine Outcome.mapM_eq_ok fun index member => ?_
  have listed : index.toWord ∈ indices.words := List.mem_map_of_mem member
  rw [words] at listed
  obtain ⟨number, run, same⟩ := List.mem_map.mp listed
  have below : number < total := by
    have := List.mem_range'_1.mp run
    omega
  have nonneg := Int64.not_lt.mpr (ofNat_nonneg (lt_trans below fits))
  have less : ¬ Int64.ofNat total ≤ Int64.ofNat number := by
    rw [Int64.le_iff_toInt_le, Int64.toInt_ofNat_of_lt fits,
      Int64.toInt_ofNat_of_lt (lt_trans below fits)]
    omega
  rw [normalizeIndex, ← same]
  simp only [nonneg, less, if_false, or_self]

section run

variable {total : Nat} (spans : tensor.Spans before after total)

include spans

theorem take_eq_ok {chosen : List Int64} {room : Nat} {blocks : List (List (List Binary64))}
    (found : Shape.axisIndex axis tensor.rank = .ok before.length)
    (beforeFits : before.size < 2 ^ 63)
    (normalized : indices.data.mapM (normalizeIndex (Int64.ofNat total)) = .ok chosen)
    (reserved : reserve 8 (Int64.ofNat (before.size * (chosen.length * after.size))) = .ok room)
    (gathered : tabulate
      (if chosen.isEmpty ∨ Int64.ofNat after.size = 0 then 0 else before.size)
      (gatherBlock tensor.strip (Int64.ofNat total) (Int64.ofNat after.size) chosen) = .ok blocks) :
    tensor.take indices axis = .ok (ofReserved
      (before ++ indices.dims ++ after) tensor.type room blocks.flatten.flatten) := by
  obtain ⟨beforeNatural, -, afterNatural⟩ := spans.natural
  have outer : tensor.dims.take before.length = before := by rw [spans.dims, List.take_left]
  have inner : tensor.dims.drop (before.length + 1) = after := by
    rw [spans.dims, ← List.drop_drop, List.drop_left]
    rfl
  have own : tensor.dims.getD before.length 0 = Int64.ofNat total := by simp [spans.dims]
  have body : tensor.take indices axis =
      (liftShape (Shape.axisIndex axis tensor.rank)).bind fun position =>
        let size := tensor.dims.getD position 0
        let outer := elementCount (tensor.dims.take position)
        let inner := elementCount (tensor.dims.drop (position + 1))
        (indices.data.mapM (normalizeIndex size)).bind fun chosen =>
          (reserve 8 (outer * Int64.ofNat chosen.length * inner)).bind fun room =>
            (tabulate (if chosen.isEmpty ∨ inner = 0 then 0 else outer.toInt.toNat)
              (gatherBlock tensor.strip size inner chosen)).bind fun blocks =>
                .ok (ofReserved (takenShape tensor.dims indices.dims position) tensor.type room
                  blocks.flatten.flatten) := rfl
  rw [body, found]
  simp only [liftShape, Except.mapError, Except.bind, own, outer, inner, takenShape,
    Shape.elementCount_eq_ofNat beforeNatural, Shape.elementCount_eq_ofNat afterNatural,
    ← Int64.ofNat_mul, Nat.mul_assoc, toInt_toNat_ofNat beforeFits, normalized, reserved, gathered]

variable (fits : tensor.data.length < 2 ^ 63) (inside : start + count ≤ total)

include fits inside

theorem gatherBlock_eq_ok {block : Nat} (below : block < before.size) :
    gatherBlock tensor.strip (Int64.ofNat total) (Int64.ofNat after.size)
        ((List.range' start count).map Int64.ofNat) (Int64.ofNat block) =
      .ok ((List.range' (block * total + start) count).map (chunk after.size tensor.data)) := by
  rw [gatherBlock, List.mapM_map, ← List.map_add_range', List.map_map]
  refine Outcome.mapM_eq_ok fun number member => ?_
  have within := List.mem_range'_1.mp member
  have length : tensor.data.length = before.size * total * after.size := by
    rw [spans.length_eq, Nat.mul_assoc]
  have row : block * total + number < before.size * total := by
    have : (block + 1) * total ≤ before.size * total := Nat.mul_le_mul_right _ below
    rw [Nat.succ_mul] at this
    omega
  rw [Function.comp_apply, Function.comp_apply, ← slice_chunk length row fits, Nat.succ_mul]
  dsimp only
  rw [← Int64.ofNat_mul, ← Int64.ofNat_add, ← Int64.ofNat_mul, ← Int64.ofNat_add]

/-- The blocks of a run hold the run. -/
theorem gatherBlocks_eq_ok (afterFits : after.size < 2 ^ 63) :
    ∃ blocks, tabulate
        (if ((List.range' start count).map Int64.ofNat).isEmpty ∨ Int64.ofNat after.size = 0 then 0
          else before.size)
        (gatherBlock tensor.strip (Int64.ofNat total) (Int64.ofNat after.size)
          ((List.range' start count).map Int64.ofNat)) = .ok blocks ∧
      blocks.flatten.flatten = ((List.range before.size).map fun block =>
        (tensor.data.drop ((block * total + start) * after.size)).take
          (count * after.size)).flatten := by
  split
  · next empty =>
    -- Without indices or elements behind the axis no block is visited, and every run is empty.
    have none : count * after.size = 0 := by
      rcases empty with noIndex | noElement
      · rw [List.isEmpty_iff, List.map_eq_nil_iff, List.range'_eq_nil_iff] at noIndex
        rw [noIndex, Nat.zero_mul]
      · rw [← toInt_toNat_ofNat afterFits, noElement]
        rfl
    exact ⟨[], rfl, by simp [none]⟩
  · refine ⟨_, tabulate_eq_ok fun block below => gatherBlock_eq_ok spans fits inside below, ?_⟩
    rw [List.flatten_flatten, List.map_map]
    refine congrArg List.flatten (List.map_congr_left fun block _ => ?_)
    exact flatten_map_chunk ..

/-- Gathering a run of indices cuts the run out of every block. -/
theorem take_run (found : Shape.axisIndex axis tensor.rank = .ok before.length)
    (words : indices.words = (List.range' start count).map Int64.ofNat)
    (beforeFits : before.size < 2 ^ 63) (afterFits : after.size < 2 ^ 63)
    (small : before.size * (count * after.size) * 8 ≤ largestReservation) :
    ∃ taken, tensor.take indices axis = .ok taken ∧
      taken.shape = some (before ++ indices.dims ++ after) ∧
      taken.data = ((List.range before.size).map fun block =>
        (tensor.data.drop ((block * total + start) * after.size)).take
          (count * after.size)).flatten := by
  have whole : before.size * (count * after.size) < 2 ^ 63 := by
    rw [largestReservation] at small
    omega
  have reserved : reserve 8 (Int64.ofNat (before.size *
      (((List.range' start count).map Int64.ofNat).length * after.size))) =
        .ok (before.size * (count * after.size)) := by
    rw [List.length_map, List.length_range', reserve_eq_ok_iff, toInt_toNat_ofNat whole]
    exact ⟨ofNat_nonneg whole, small, rfl⟩
  have normalized := mapM_normalizeIndex words inside spans.fits
  obtain ⟨blocks, gathered, data⟩ := gatherBlocks_eq_ok spans fits inside afterFits
  exact ⟨_, take_eq_ok spans found beforeFits normalized reserved gathered, rfl, data⟩

end run

/-! ## The round trip -/

/-- Gathering undoes concatenation: along the same axis, the indices that a tensor's part of the
result has on the axis give its shape and data back. -/
theorem take_concat {tensors : List Tensor} {joined : Tensor}
    (wellFormed : ∀ tensor ∈ tensors, tensor.WellFormed)
    (done : Tensor.concat tensors axis = .ok joined)
    (sizesFit : (tensors.map (axisSize axis)).sum < 2 ^ 63)
    (countsFit : ∀ axes, exactCount (joined.dims.take axes) < 2 ^ 63 ∧
      exactCount (joined.dims.drop axes) < 2 ^ 63) :
    (joined.data.length : Int) = joined.dims.exactCount ∧
      ∀ index tensor, tensors[index]? = some tensor →
        ∀ indices : Tensor, indices.WellFormed → indices.rank = 1 →
          indices.words = (List.range' ((tensors.take index).map (axisSize axis)).sum
            (tensor.axisSize axis)).map Int64.ofNat →
          ∃ taken, joined.take indices axis = .ok taken ∧ taken.shape = tensor.shape ∧
            taken.data = tensor.data := by
  obtain ⟨before, after, spans, whole, found, data, small, beforeFits, afterFits⟩ :=
    joined_of_concat wellFormed done sizesFit countsFit
  refine ⟨whole.wellFormed.filled, fun index tensor listed indices filled line words => ?_⟩
  have own := spans tensor (List.mem_of_getElem? listed)
  have inside : ((tensors.take index).map (axisSize axis)).sum + tensor.axisSize axis ≤
      (tensors.map (axisSize axis)).sum := by
    obtain ⟨below, rfl⟩ := List.getElem?_eq_some_iff.mp listed
    conv_rhs => rw [← List.take_append_drop index tensors, List.drop_eq_getElem_cons below,
      List.map_append, List.sum_append, List.map_cons, List.sum_cons]
    omega
  have fits : joined.data.length < 2 ^ 63 := by
    rw [largestReservation] at small
    omega
  have partSmall : before.size * (tensor.axisSize axis * after.size) * 8 ≤ largestReservation := by
    refine le_trans ?_ small
    rw [whole.length_eq]
    exact Nat.mul_le_mul_right _ (Nat.mul_le_mul_left _ (Nat.mul_le_mul_right _ (by omega)))
  obtain ⟨taken, cut, shape, cutData⟩ :=
    take_run whole fits inside found words beforeFits afterFits partSmall
  have indicesDims : indices.dims = [Int64.ofNat (tensor.axisSize axis)] := by
    obtain ⟨dim, dims⟩ := List.length_eq_one_iff.mp line
    have natural := filled.natural dim (by simp [dims])
    have length := congrArg List.length words
    rw [Tensor.words, List.length_map, List.length_map, List.length_range', filled.length_eq, dims,
      Shape.size_cons, Shape.size_nil, Nat.mul_one] at length
    rw [dims, ← length, Shape.ofNat_toNat natural]
  refine ⟨taken, cut, ?_, ?_⟩
  · rw [shape, indicesDims, own.shape_eq, own.dims, List.append_assoc]
    rfl
  · rw [cutData, data]
    calc _ = ((List.range before.size).map
          (chunk (tensor.axisSize axis * after.size) tensor.data)).flatten :=
        congrArg List.flatten (List.map_congr_left fun block member =>
          take_drop_joinedRows spans listed (List.mem_range.mp member))
      _ = tensor.data := flatten_map_chunk_range own.length_eq

/-- The columns of a matrix, put behind another column and gathered again. -/
theorem take_concat_columns :
    let column : Tensor := ⟨some [2, 1], .int64, [1, 2].map Binary64.ofInt, 0⟩
    let columns : Tensor := ⟨some [2, 2], .int64, [3, 4, 5, 6].map Binary64.ofInt, 0⟩
    let joined : Tensor := ⟨some [2, 3], .int64, [1, 3, 4, 2, 5, 6].map Binary64.ofInt, 0⟩
    Tensor.concat [column, columns] (-1) = .ok joined ∧ (vector [1, 2]).words = [1, 2] ∧
      ∃ taken, joined.take (vector [1, 2]) (-1) = .ok taken ∧ taken.shape = columns.shape ∧
        taken.data = columns.data := by
  intro column columns joined
  have done : Tensor.concat [column, columns] (-1) = .ok joined := by decide +kernel
  have words : (vector [1, 2]).words = [1, 2] := by decide +kernel
  have wellFormed : ∀ tensor ∈ [column, columns], tensor.WellFormed :=
    List.forall_mem_cons.mpr ⟨by decide, List.forall_mem_singleton.mpr (by decide)⟩
  have countsFit (axes : Nat) : exactCount (joined.dims.take axes) < 2 ^ 63 ∧
      exactCount (joined.dims.drop axes) < 2 ^ 63 := by
    match axes with
    | 0 => decide
    | 1 => decide
    | axes + 2 =>
      rw [List.take_of_length_le (Nat.le_add_left 2 axes),
        List.drop_of_length_le (Nat.le_add_left 2 axes)]
      decide
  exact ⟨done, words, (take_concat wellFormed done (by decide) countsFit).2 1 columns rfl
    (vector [1, 2]) (by decide) rfl words⟩

end StaticNet.Tensor
