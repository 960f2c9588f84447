import Mathlib.Data.List.Forall2
import StaticNet.Proofs.Shape.Broadcast
import StaticNet.Proofs.Shape.Count

/-! # Row-major positions

The elements of a shape are numbered by its multi-indices, the innermost axis first. Every number
below the size is the position of a multi-index, from which dividing by the strides gives the index
on each axis back.
-/

namespace StaticNet.Shape

/-- A multi-index lies within a shape: on each axis it is less than the dimension. -/
def Admits (shape : Shape) (index : List Nat) : Prop :=
  List.Forall₂ (fun dim i => i < dim.toInt.toNat) shape index

/-- The row-major position of a multi-index. -/
def position : Shape → List Nat → Nat
  | _ :: inner, i :: index => i * size inner + position inner index
  | _, _ => 0

/-- The multi-index of a shape at a multi-index of a result that it is stretched to: the innermost
axes, where an axis of size one is indexed by zero. -/
def stretchedIndex (shape : Shape) (index : List Nat) : List Nat :=
  List.zipWith (fun dim i => if dim = 1 then 0 else i) shape
    (index.drop (index.length - shape.length))

variable {shape inner outer : Shape} {index : List Nat}

theorem Admits.positive (admits : shape.Admits index) : ∀ dim ∈ shape, 0 < dim := by
  induction admits with
  | nil => nofun
  | cons less _ ih =>
    refine List.forall_mem_cons.mpr ⟨?_, ih⟩
    rw [Int64.lt_iff_toInt_lt, Int64.toInt_zero]
    omega

theorem Admits.natural (admits : shape.Admits index) : ∀ dim ∈ shape, 0 ≤ dim :=
  fun dim member => Int64.le_of_lt (admits.positive dim member)

theorem size_le_cons {dim : Int64} {i : Nat} (less : i < dim.toInt.toNat) :
    size inner ≤ size (dim :: inner) := by
  rw [size_cons]
  exact Nat.le_mul_of_pos_left _ (Nat.zero_lt_of_lt less)

theorem Admits.position_lt (admits : shape.Admits index) : shape.position index < shape.size := by
  induction admits with
  | nil => exact Nat.one_pos
  | @cons dim i inner index less _ ih =>
    rw [position, size_cons]
    calc i * size inner + position inner index
        < i * size inner + size inner := Nat.add_lt_add_left ih _
      _ = (i + 1) * size inner := (Nat.succ_mul ..).symm
      _ ≤ dim.toInt.toNat * size inner := Nat.mul_le_mul_right _ less

/-- Every number below the size is a position. -/
theorem exists_position_eq {flat : Nat} (below : flat < shape.size) :
    ∃ index, shape.Admits index ∧ shape.position index = flat := by
  induction shape generalizing flat with
  | nil =>
    rw [size_nil, Nat.lt_one_iff] at below
    exact ⟨[], .nil, below.symm⟩
  | cons dim inner ih =>
    rw [size_cons] at below
    have positive : 0 < size inner := Nat.pos_of_mul_pos_left (Nat.zero_lt_of_lt below)
    obtain ⟨index, admits, same⟩ := ih (Nat.mod_lt flat positive)
    have less : flat / size inner < dim.toInt.toNat :=
      Nat.div_lt_of_lt_mul (by rwa [Nat.mul_comm])
    refine ⟨flat / size inner :: index, .cons less admits, ?_⟩
    rw [position, same]
    exact Nat.div_add_mod' ..

/-! ## Strides -/

theorem elementCount_cons (dim : Int64) (inner : Shape) :
    elementCount (dim :: inner) = dim * elementCount inner := by
  rw [elementCount_eq, elementCount_eq, exactCount, List.map_cons, List.prod_cons, Int64.ofInt_mul,
    Int64.ofInt_toInt]
  rfl

theorem strides_cons (dim : Int64) (inner : Shape) :
    strides (dim :: inner) = elementCount inner :: strides inner := by
  induction inner generalizing dim with
  | nil => rfl
  | cons next inner ih =>
    rw [strides.eq_def]
    dsimp only
    rw [ih next, elementCount_cons, Int64.mul_comm]

/-- Dividing a position by the outermost stride gives the outermost index, and leaves the position
on the other axes. -/
theorem div_position {dim : Int64} {i : Nat} (admits : Admits (dim :: inner) (i :: index))
    (fits : size (dim :: inner) < 2 ^ 63) :
    Int64.ofNat (position (dim :: inner) (i :: index)) / elementCount inner = Int64.ofNat i ∧
      Int64.ofNat (position (dim :: inner) (i :: index)) % elementCount inner =
        Int64.ofNat (position inner index) := by
  obtain ⟨less, others⟩ := List.forall₂_cons.mp admits
  have below := Admits.position_lt others
  have small := lt_of_le_of_lt (size_le_cons less) fits
  have whole := lt_trans admits.position_lt fits
  rw [elementCount_eq_ofNat (Admits.natural others), ← Int64.ofNat_div whole small,
    ← Int64.ofNat_mod whole small, position, Nat.mul_comm]
  refine ⟨congrArg Int64.ofNat ?_, congrArg Int64.ofNat ?_⟩
  · rw [Nat.mul_add_div (by omega), Nat.div_eq_of_lt below, Nat.add_zero]
  · rw [Nat.mul_add_mod, Nat.mod_eq_of_lt below]

/-- The strides of a shape with elements do not vanish. -/
theorem strides_pos (natural : ∀ dim ∈ shape, 0 ≤ dim) (positive : 0 < shape.size)
    (fits : shape.size < 2 ^ 63) : ∀ stride ∈ shape.strides, 0 < stride := by
  induction shape with
  | nil => nofun
  | cons dim inner ih =>
    obtain ⟨-, others⟩ := List.forall_mem_cons.mp natural
    rw [size_cons] at positive
    have innerPositive := Nat.pos_of_mul_pos_left positive
    have small := lt_of_le_of_lt (size_le_cons (Nat.pos_of_mul_pos_right positive)) fits
    rw [strides_cons]
    refine List.forall_mem_cons.mpr ⟨?_, ih others innerPositive small⟩
    rw [elementCount_eq_ofNat others, Int64.lt_iff_toInt_lt, Int64.toInt_ofNat_of_lt small,
      Int64.toInt_zero]
    exact_mod_cast innerPositive

/-! ## Stretched shapes -/

/-- A shape is indexed within itself at every multi-index of a shape that it is stretched to axis by
axis, and has no more elements. -/
theorem admits_of_stretchesDim (stretched : List.Forall₂ StretchesDim shape inner)
    (admits : inner.Admits index) :
    shape.Admits (List.zipWith (fun dim i => if dim = 1 then 0 else i) shape index) ∧
      shape.size ≤ inner.size := by
  induction stretched generalizing index with
  | nil =>
    cases admits
    exact ⟨.nil, Nat.le_refl _⟩
  | @cons dim wide shape inner fits _ ih =>
    cases admits with
    | @cons _ i _ index less others =>
      obtain ⟨admits, smaller⟩ := ih others
      rw [List.zipWith_cons_cons, size_cons, size_cons]
      by_cases one : dim = 1
      · subst one
        have unit : (1 : Int64).toInt.toNat = 1 := rfl
        rw [if_pos rfl, unit]
        exact ⟨.cons (by rw [unit]; exact Nat.one_pos) admits, Nat.mul_le_mul (by omega) smaller⟩
      · obtain rfl := fits.resolve_right one
        rw [if_neg one]
        exact ⟨.cons less admits, Nat.mul_le_mul_left _ smaller⟩

end StaticNet.Shape
