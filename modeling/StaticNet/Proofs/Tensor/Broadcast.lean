import StaticNet.Proofs.Outcome
import StaticNet.Proofs.Shape.Position
import StaticNet.Proofs.Tensor.Access

/-! # Element-wise application under broadcasting

Both operands of an element-wise operation are stretched to the join of their shapes. At the
position of a multi-index of the join, the strides that are zero on stretched axes lead to the
elements of the operands at this multi-index, aligned at the innermost axis. A join whose data is
too large to reserve ends in a trap.
-/

namespace StaticNet.Tensor

open Shape (Stretches StretchesDim size position elementCount strides exactCount)

variable {shape inner outer result : Shape} {index : List Nat}

/-! ## Positions in a stretched operand -/

/-- The strides of a shape, zero where its dimension is one. -/
def ownStrides (shape : Shape) : List Int64 :=
  (shape.zip shape.strides).map fun entry => if entry.1 = 1 then 0 else entry.2

theorem ownStrides_cons (dim : Int64) (inner : Shape) :
    ownStrides (dim :: inner) =
      (if dim = 1 then 0 else elementCount inner) :: ownStrides inner := by
  rw [ownStrides, Shape.strides_cons]
  rfl

/-- Axes that only the result has do not move the position in the operand. -/
theorem stretchedPosition_append {own : List Int64} (admits : Shape.Admits (outer ++ inner) index)
    (fits : size (outer ++ inner) < 2 ^ 63) :
    stretchedPosition (Int64.ofNat (position (outer ++ inner) index))
        ((strides (outer ++ inner)).zip (List.replicate outer.length 0 ++ own)) =
      stretchedPosition (Int64.ofNat (position inner (index.drop outer.length)))
        ((strides inner).zip own) ∧
      inner.Admits (index.drop outer.length) ∧ size inner ≤ size (outer ++ inner) := by
  induction outer generalizing index with
  | nil => exact ⟨rfl, admits, Nat.le_refl _⟩
  | cons dim outer ih =>
    cases admits with
    | @cons _ i _ index less others =>
      have smaller := @Shape.size_le_cons (outer ++ inner) dim i less
      obtain ⟨-, rest⟩ := @Shape.div_position (outer ++ inner) index dim i (.cons less others) fits
      obtain ⟨same, within, small⟩ := ih others (lt_of_le_of_lt smaller fits)
      refine ⟨?_, within, Nat.le_trans small smaller⟩
      rw [List.cons_append, Shape.strides_cons, List.length_cons, List.replicate_succ,
        List.cons_append, List.zip_cons_cons, stretchedPosition, rest, Int64.mul_zero,
        Int64.zero_add]
      exact same

/-- On the axes of the operand, its own strides lead to the element at the same multi-index, where
stretched axes are indexed by zero. -/
theorem stretchedPosition_ownStrides (stretched : List.Forall₂ StretchesDim shape inner)
    (admits : inner.Admits index) (fits : inner.size < 2 ^ 63) :
    stretchedPosition (Int64.ofNat (inner.position index)) (inner.strides.zip (ownStrides shape)) =
      Int64.ofNat (shape.position
        (List.zipWith (fun dim i => if dim = 1 then 0 else i) shape index)) := by
  induction stretched generalizing index with
  | nil =>
    cases admits
    rfl
  | @cons dim wide shape inner _ stretched ih =>
    cases admits with
    | @cons _ i _ index less others =>
      have small := lt_of_le_of_lt (Shape.size_le_cons less) fits
      obtain ⟨first, rest⟩ := Shape.div_position (.cons less others) fits
      obtain ⟨within, -⟩ := Shape.admits_of_stretchesDim stretched others
      rw [Shape.strides_cons, ownStrides_cons, List.zip_cons_cons, stretchedPosition, first, rest,
        ih others small, List.zipWith_cons_cons, position, Int64.ofNat_add]
      congr 1
      split
      · rw [Int64.mul_zero, Nat.zero_mul]
        rfl
      · rw [Shape.elementCount_eq_ofNat within.natural, Int64.ofNat_mul]

/-- At the position of a multi-index of the result, the strides of a stretched operand lead to the
position of the multi-index aligned to the operand. -/
theorem stretchedPosition_position (stretches : shape.Stretches result)
    (admits : result.Admits index) (fits : result.size < 2 ^ 63) :
    stretchedPosition (Int64.ofNat (result.position index))
        (result.strides.zip (stretchedStrides shape result)) =
      Int64.ofNat (shape.position (shape.stretchedIndex index)) ∧
      shape.Admits (shape.stretchedIndex index) ∧ shape.size ≤ result.size := by
  obtain ⟨outer, inner, rfl, stretched⟩ := stretches
  obtain ⟨same, within, small⟩ :=
    @stretchedPosition_append inner outer index (ownStrides shape) admits fits
  have further : (outer ++ inner).length - shape.length = outer.length := by
    rw [List.length_append, stretched.length_eq, Nat.add_sub_cancel]
  have aligned : index.length - shape.length = outer.length := by
    rw [← admits.length_eq, further]
  obtain ⟨own, smaller⟩ := Shape.admits_of_stretchesDim stretched within
  rw [stretchedStrides, further, Shape.stretchedIndex, aligned]
  refine ⟨?_, own, Nat.le_trans smaller small⟩
  rw [← stretchedPosition_ownStrides stretched within (lt_of_le_of_lt small fits)]
  exact same

/-- The element of a well-formed operand that is read at the position of a multi-index of the
result. -/
theorem elementAt_stretchedPosition {tensor : Tensor} (wellFormed : tensor.WellFormed)
    (stretches : tensor.dims.Stretches result) (admits : result.Admits index)
    (fits : result.size < 2 ^ 63) :
    ∃ element, tensor.data[tensor.dims.position (tensor.dims.stretchedIndex index)]? =
        some element ∧
      elementAt tensor.data.toArray (stretchedPosition (Int64.ofNat (result.position index))
        (result.strides.zip (stretchedStrides tensor.dims result))) = .ok element := by
  obtain ⟨same, within, small⟩ := stretchedPosition_position stretches admits fits
  have inside := within.position_lt
  rw [← wellFormed.length_eq] at inside
  refine ⟨_, List.getElem?_eq_getElem inside, ?_⟩
  rw [same]
  rw [wellFormed.length_eq] at inside
  exact elementAt_eq_ok (List.getElem?_eq_getElem _) (by omega)

/-! ## Element-wise application -/

/-- A tensor holds, at each multi-index of a shape, an operation applied to the elements of two
tensors at this multi-index, aligned at the innermost axis and with stretched axes indexed by zero.
Where it has elements no stride of the shape is zero. -/
structure IsElementwise (op : Binary64 → Binary64 → Binary64) (result : Shape)
    (left right folded : Tensor) : Prop where
  shape : folded.shape = some result
  type : folded.type = left.type
  filled : (folded.data.length : Int) = result.exactCount
  divisors : folded.data ≠ [] → ∀ stride ∈ result.strides, stride ≠ 0
  elements : ∀ index, result.Admits index → ∃ x y,
    left.data[left.dims.position (left.dims.stretchedIndex index)]? = some x ∧
      right.data[right.dims.position (right.dims.stretchedIndex index)]? = some y ∧
      folded.data[result.position index]? = some (op x y)

section zipBroadcast

variable {op : Binary64 → Binary64 → Binary64} {left right : Tensor}

/-- The element of the result at a flat position. -/
def zipAt (op : Binary64 → Binary64 → Binary64) (result : Shape) (left right : Tensor)
    (flat : Int64) : Except TensorError Binary64 := do
  let x ← elementAt left.data.toArray
    (stretchedPosition flat (result.strides.zip (stretchedStrides left.dims result)))
  let y ← elementAt right.data.toArray
    (stretchedPosition flat (result.strides.zip (stretchedStrides right.dims result)))
  return op x y

theorem zipBroadcast_eq_ok {room : Nat} {data : List Binary64}
    (reserved : reserve 8 result.elementCount = .ok room)
    (filled : tabulate room (zipAt op result left right) = .ok data) :
    zipBroadcast op result left right = .ok { shape := some result, type := left.type, data } := by
  have body : zipBroadcast op result left right =
      (reserve 8 result.elementCount).bind fun room =>
        (tabulate room (zipAt op result left right)).bind fun data =>
          .ok { shape := some result, type := left.type, data } := rfl
  rw [body, reserved, Except.bind, filled, Except.bind]

theorem zipBroadcast_eq_trap (refused : reserve 8 result.elementCount = .error .trap) :
    zipBroadcast op result left right = .error .trap := by
  rw [zipBroadcast, refused]
  rfl

/-- At the position of a multi-index the operation is applied to the elements of both operands. -/
theorem zipAt_position (leftWellFormed : left.WellFormed) (rightWellFormed : right.WellFormed)
    (joined : left.dims.broadcast right.dims = .ok result) (fits : result.size < 2 ^ 63)
    (admits : result.Admits index) :
    ∃ x y, left.data[left.dims.position (left.dims.stretchedIndex index)]? = some x ∧
      right.data[right.dims.position (right.dims.stretchedIndex index)]? = some y ∧
      zipAt op result left right (Int64.ofNat (result.position index)) = .ok (op x y) := by
  obtain ⟨leftStretches, rightStretches⟩ := Shape.stretches_of_broadcast joined
  obtain ⟨x, atLeft, first⟩ :=
    elementAt_stretchedPosition leftWellFormed leftStretches admits fits
  obtain ⟨y, atRight, second⟩ :=
    elementAt_stretchedPosition rightWellFormed rightStretches admits fits
  refine ⟨x, y, atLeft, atRight, ?_⟩
  rw [zipAt, first, second]
  rfl

theorem reserve_elementCount (natural : ∀ dim ∈ shape, 0 ≤ dim) (fits : shape.size < 2 ^ 63) :
    reserve 8 shape.elementCount =
      if largestReservation < shape.size * 8 then .error .trap else .ok shape.size := by
  rw [reserve, Shape.elementCount_eq_ofNat natural, toInt_toNat_ofNat fits]
  simp only [Int64.not_lt.mpr (ofNat_nonneg fits), false_or]

/-- Element-wise application to well-formed operands stretches them to the join of their shapes, and
never leaves their data, if the data of the join can be reserved; a larger join ends in a trap. -/
theorem zipBroadcast_isElementwise (leftWellFormed : left.WellFormed)
    (rightWellFormed : right.WellFormed) (joined : left.dims.broadcast right.dims = .ok result)
    (fits : result.exactCount < 2 ^ 63) :
    (result.exactCount * 8 ≤ largestReservation →
        ∃ folded, zipBroadcast op result left right = .ok folded ∧
          IsElementwise op result left right folded) ∧
      (largestReservation < result.exactCount * 8 →
        zipBroadcast op result left right = .error .trap) := by
  have natural := Shape.natural_of_broadcast joined leftWellFormed.natural rightWellFormed.natural
  have exact := Shape.exactCount_eq_size natural
  have fits : result.size < 2 ^ 63 := Shape.size_lt natural fits
  rw [exact]
  have reserved := reserve_elementCount natural fits
  refine ⟨fun small => ?_, fun large => ?_⟩
  · rw [if_neg (by omega)] at reserved
    have stepped : ∀ flat < result.size, ∃ element,
        zipAt op result left right (Int64.ofNat flat) = .ok element := by
      intro flat below
      obtain ⟨index, admits, rfl⟩ := Shape.exists_position_eq below
      obtain ⟨x, y, -, -, done⟩ := zipAt_position leftWellFormed rightWellFormed joined fits admits
      exact ⟨_, done⟩
    choose! answer answers using stepped
    refine ⟨_, zipBroadcast_eq_ok reserved (tabulate_eq_ok answers), rfl, rfl, ?_, ?_, ?_⟩
    · rw [exact, List.length_map, List.length_range]
    · intro filled stride member zero
      have positive : 0 < result.size := by
        rw [Nat.pos_iff_ne_zero]
        rintro empty
        simp [empty] at filled
      have moves := Shape.strides_pos natural positive fits stride member
      rw [zero] at moves
      exact absurd moves (by decide)
    · intro index admits
      obtain ⟨x, y, atLeft, atRight, done⟩ :=
        @zipAt_position _ _ op left right leftWellFormed rightWellFormed joined fits admits
      have below := admits.position_lt
      have same := Except.ok.inj ((answers _ below).symm.trans done)
      refine ⟨x, y, atLeft, atRight, ?_⟩
      rw [List.getElem?_map, List.getElem?_range below, Option.map_some, same]
  · rw [if_pos (by omega)] at reserved
    exact zipBroadcast_eq_trap reserved

end zipBroadcast

/-- A column and a row are stretched to a matrix. -/
theorem zipBroadcast_isElementwise_outer :
    let column : Tensor := ⟨some [2, 1], .int64, [1, 2].map Binary64.ofInt, 0⟩
    let row : Tensor := ⟨some [3], .int64, [10, 20, 30].map Binary64.ofInt, 0⟩
    column.WellFormed ∧ row.WellFormed ∧ column.dims.broadcast row.dims = .ok [2, 3] ∧
      exactCount [2, 3] * 8 ≤ largestReservation ∧
      ∃ folded, zipBroadcast Binary64.add [2, 3] column row = .ok folded ∧
        IsElementwise Binary64.add [2, 3] column row folded := by
  intro column row
  have columnWellFormed : column.WellFormed := by decide
  have rowWellFormed : row.WellFormed := by decide
  have joined : column.dims.broadcast row.dims = .ok [2, 3] := by
    change Shape.broadcast [2, 1] [3] = .ok [2, 3]
    cbv
  have small : exactCount [2, 3] * 8 ≤ largestReservation := by decide
  exact ⟨columnWellFormed, rowWellFormed, joined, small,
    (zipBroadcast_isElementwise columnWellFormed rowWellFormed joined (by decide)).1 small⟩

/-- A column and a row of many elements whose join has a word of elements, but more bytes than are
ever reserved. -/
theorem zipBroadcast_outer_eq_trap :
    let column : Tensor :=
      ⟨some [8388608, 1], .uint8, List.replicate 8388608 (Binary64.zero false), 0⟩
    let row : Tensor := ⟨some [1, 8388608], .uint8, List.replicate 8388608 (Binary64.zero false), 0⟩
    column.WellFormed ∧ row.WellFormed ∧
      column.dims.broadcast row.dims = .ok [8388608, 8388608] ∧
      (∀ inner ∈ ([8388608, 8388608] : Shape).tails, exactCount inner < 2 ^ 63) ∧
      ∀ op, zipBroadcast op [8388608, 8388608] column row = .error .trap := by
  intro column row
  refine ⟨⟨Shape.forall_nonneg_iff.mpr (by decide), ?_⟩,
    ⟨Shape.forall_nonneg_iff.mpr (by decide), ?_⟩, ?_, ?_,
    fun op => zipBroadcast_eq_trap (by decide)⟩
  · rw [List.length_replicate]
    decide
  · rw [List.length_replicate]
    decide
  · cbv
  · decide

end StaticNet.Tensor
