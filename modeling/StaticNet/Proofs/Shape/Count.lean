import Mathlib.Algebra.BigOperators.Group.List.Basic
import Mathlib.Algebra.Order.Ring.Int
import StaticNet.Shape

/-! # Exact element counts

The number of elements of a shape is a machine product that may wrap around. Here it is compared
with the product of the dimensions as a number: of any shape as an integer, and of a shape without
negative dimensions as a natural number, its size.
-/

namespace StaticNet

/-- The number of elements of a shape, as a number that does not wrap around. -/
def Shape.exactCount (shape : Shape) : Int := (shape.map Int64.toInt).prod

theorem Shape.elementCount_eq (shape : Shape) :
    shape.elementCount = Int64.ofInt shape.exactCount := by
  have general (start : Int) : shape.foldl (· * ·) (Int64.ofInt start) =
      Int64.ofInt (start * shape.exactCount) := by
    rw [exactCount]
    induction shape generalizing start with
    | nil => simp
    | cons dim rest ih =>
      have product : Int64.ofInt start * dim = Int64.ofInt (start * dim.toInt) := by
        rw [Int64.ofInt_mul, Int64.ofInt_toInt]
      rw [List.foldl_cons, product, ih, List.map_cons, List.prod_cons, Int.mul_assoc]
  have whole := general 1
  rwa [Int.one_mul] at whole

theorem Shape.exactCount_nonneg {shape : Shape} (dims : ∀ dim ∈ shape, 0 ≤ dim) :
    0 ≤ shape.exactCount := by
  rw [exactCount]
  induction shape with
  | nil => simp
  | cons dim rest ih =>
    obtain ⟨first, others⟩ := List.forall_mem_cons.mp dims
    rw [List.map_cons, List.prod_cons]
    exact Int.mul_nonneg (Int64.le_iff_toInt_le.mp first) (ih others)

namespace Shape

theorem exactCount_cons (dim : Int64) (rest : Shape) :
    exactCount (dim :: rest) = dim.toInt * exactCount rest := List.prod_cons

theorem exactCount_append (outer inner : Shape) :
    exactCount (outer ++ inner) = outer.exactCount * inner.exactCount := by
  rw [exactCount, List.map_append, List.prod_append]
  rfl

/-- The machine count of a shape without negative dimensions is exact if and only if the exact
count fits. -/
theorem toInt_elementCount_eq_iff {shape : Shape} (natural : ∀ dim ∈ shape, 0 ≤ dim) :
    shape.elementCount.toInt = shape.exactCount ↔ shape.exactCount < 2 ^ 63 := by
  constructor
  · intro exact
    rw [← exact]
    exact shape.elementCount.toInt_lt
  · intro fits
    have lower := exactCount_nonneg natural
    rw [elementCount_eq, Int64.toInt_ofInt_of_le (by omega) fits]

/-- The number of elements of a shape without negative dimensions. -/
def size (shape : Shape) : Nat := (shape.map fun dim => dim.toInt.toNat).prod

@[simp] theorem size_nil : size [] = 1 := rfl

@[simp] theorem size_cons (dim : Int64) (rest : Shape) :
    size (dim :: rest) = dim.toInt.toNat * size rest := List.prod_cons

@[simp] theorem size_append (outer inner : Shape) :
    size (outer ++ inner) = outer.size * inner.size := by
  rw [size, List.map_append, List.prod_append]
  rfl

/-- No dimension is negative, as a test. -/
theorem forall_nonneg_iff {shape : Shape} :
    (∀ dim ∈ shape, 0 ≤ dim) ↔ shape.all (0 ≤ ·) = true := by
  rw [List.all_eq_true]
  exact forall₂_congr fun dim _ => decide_eq_true_iff.symm

theorem toInt_toNat {dim : Int64} (natural : 0 ≤ dim) : (dim.toInt.toNat : Int) = dim.toInt :=
  Int.toNat_of_nonneg (Int64.le_iff_toInt_le.mp natural)

theorem ofNat_toNat {dim : Int64} (natural : 0 ≤ dim) : Int64.ofNat dim.toInt.toNat = dim := by
  rw [← Int64.ofInt_eq_ofNat, toInt_toNat natural, Int64.ofInt_toInt]

theorem toNat_pos {dim : Int64} (positive : 0 < dim) : 0 < dim.toInt.toNat := by
  have := Int64.lt_iff_toInt_lt.mp positive
  rw [Int64.toInt_zero] at this
  omega

theorem exactCount_eq_size {shape : Shape} (natural : ∀ dim ∈ shape, 0 ≤ dim) :
    shape.exactCount = shape.size := by
  induction shape with
  | nil => rfl
  | cons dim rest ih =>
    obtain ⟨first, others⟩ := List.forall_mem_cons.mp natural
    have tail := ih others
    rw [exactCount] at tail ⊢
    rw [List.map_cons, List.prod_cons, tail, size_cons, Nat.cast_mul, toInt_toNat first]

theorem size_lt {shape : Shape} {bound : Nat} (natural : ∀ dim ∈ shape, 0 ≤ dim)
    (fits : shape.exactCount < bound) : shape.size < bound := by
  rw [exactCount_eq_size natural] at fits
  exact Int.ofNat_lt.mp fits

theorem elementCount_eq_ofNat {shape : Shape} (natural : ∀ dim ∈ shape, 0 ≤ dim) :
    shape.elementCount = Int64.ofNat shape.size := by
  rw [elementCount_eq, exactCount_eq_size natural, Int64.ofInt_eq_ofNat]

theorem size_pos {shape : Shape} (positive : ∀ dim ∈ shape, 0 < dim) : 0 < shape.size := by
  induction shape with
  | nil => exact Nat.one_pos
  | cons dim rest ih =>
    obtain ⟨first, others⟩ := List.forall_mem_cons.mp positive
    rw [size_cons]
    exact Nat.mul_pos (toNat_pos first) (ih others)

theorem exactCount_pos {shape : Shape} (positive : ∀ dim ∈ shape, 0 < dim) :
    0 < shape.exactCount := by
  rw [exactCount_eq_size fun dim member => Int64.le_of_lt (positive dim member)]
  exact_mod_cast size_pos positive

end Shape

end StaticNet
