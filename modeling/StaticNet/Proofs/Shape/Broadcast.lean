import Mathlib.Data.List.Forall2
import Mathlib.Data.List.GetD
import StaticNet.Shape

/-! # Joins of shapes

Two shapes are joined axis by axis from the innermost one, where a missing dimension counts as one.
Each operand is stretched to the join: aligned at the innermost axis, its dimensions are those of
the join or one.
-/

namespace StaticNet.Shape

/-! ## Joins from the innermost axis -/

theorem step_eq_ok_iff {left right : Int64}
    {others : Except (Nat × Int64 × Int64) (List Int64)} {dims : List Int64} :
    joinReversed.step left right others = .ok dims ↔
      ∃ dim rest, joinDims left right = some dim ∧ others = .ok rest ∧ dims = dim :: rest := by
  cases joined : joinDims left right with
  | none => simp [joinReversed.step, joined]
  | some dim =>
    cases others with
    | error cause => simp [joinReversed.step, joined]
    | ok rest => simp [joinReversed.step, joined, eq_comm]

theorem joinDims_self (dim : Int64) : joinDims dim dim = some dim := if_pos rfl

/-- The join has as many axes as the longer shape, and on each axis the join of the dimensions. -/
theorem joinReversed_eq_ok_iff {lefts rights dims : List Int64} :
    joinReversed lefts rights = .ok dims ↔
      dims.length = max lefts.length rights.length ∧
        ∀ axis, joinDims (lefts.getD axis 1) (rights.getD axis 1) = some (dims.getD axis 1) := by
  -- The join of two first dimensions in front of a join that is known axis by axis.
  have prepend {left right : Int64} {others : Except (Nat × Int64 × Int64) (List Int64)}
      {length : Nat} {dims : List Int64} (joined : Nat → Option Int64)
      (first : joined 0 = joinDims left right)
      (known : ∀ rest, others = .ok rest ↔
        rest.length = length ∧ ∀ axis, joined (axis + 1) = some (rest.getD axis 1)) :
      joinReversed.step left right others = .ok dims ↔
        dims.length = length + 1 ∧ ∀ axis, joined axis = some (dims.getD axis 1) := by
    rw [step_eq_ok_iff, ← Nat.and_forall_add_one, first]
    cases dims with
    | nil => simp
    | cons dim rest => simp [known, and_left_comm]
  fun_induction joinReversed lefts rights generalizing dims with
  | case1 =>
    cases dims with
    | nil => simp [joinDims_self]
    | cons dim rest => simp
  | case2 left lefts ih =>
    refine (prepend (fun axis => joinDims ((left :: lefts).getD axis 1) ([].getD axis 1)) rfl
      fun _ => ih).trans ?_
    simp
  | case3 right rights ih =>
    refine (prepend (fun axis => joinDims ([].getD axis 1) ((right :: rights).getD axis 1)) rfl
      fun _ => ih).trans ?_
    simp
  | case4 left lefts right rights ih =>
    refine (prepend (fun axis => joinDims ((left :: lefts).getD axis 1)
      ((right :: rights).getD axis 1)) rfl fun _ => ih).trans ?_
    simp [Nat.add_max_add_right]

theorem broadcast_eq_ok_iff {left right result : Shape} :
    left.broadcast right = .ok result ↔
      joinReversed left.reverse right.reverse = .ok result.reverse := by
  rw [broadcast]
  cases joinReversed left.reverse right.reverse with
  | error failure => simp
  | ok dims => simp [List.reverse_eq_iff]

/-! ## Stretched operands -/

/-- A dimension is that of the result or one. -/
def StretchesDim (dim wide : Int64) : Prop := dim = wide ∨ dim = 1

/-- A shape is stretched to a result: the result has further axes outside, and on the inner ones
each dimension is that of the result or one. -/
def Stretches (shape result : Shape) : Prop :=
  ∃ outer inner, result = outer ++ inner ∧ List.Forall₂ StretchesDim shape inner

theorem stretchesDim_of_joinDims {left right dim : Int64}
    (joined : joinDims left right = some dim) :
    StretchesDim left dim ∧ StretchesDim right dim ∧ (dim = left ∨ dim = right) := by
  rw [joinDims] at joined
  simp only [StretchesDim]
  grind

private theorem stretches_of_axes {shape result : Shape} (short : shape.length ≤ result.length)
    (axes : ∀ axis, StretchesDim (shape.reverse.getD axis 1) (result.reverse.getD axis 1)) :
    shape.Stretches result := by
  let extra := result.length - shape.length
  refine ⟨result.take extra, result.drop extra, (List.take_append_drop ..).symm,
    List.forall₂_iff_get.mpr ⟨by rw [List.length_drop]; omega, fun index inside within => ?_⟩⟩
  have axis := axes (shape.length - 1 - index)
  have own : shape.reverse.getD (shape.length - 1 - index) 1 = shape[index] := by
    rw [List.getD_eq_getElem _ _ (by rw [List.length_reverse]; omega), List.getElem_reverse]
    congr 1
    omega
  have wide : result.reverse.getD (shape.length - 1 - index) 1 = (result.drop extra)[index] := by
    rw [List.getD_eq_getElem _ _ (by rw [List.length_reverse]; omega), List.getElem_reverse,
      List.getElem_drop]
    congr 1
    omega
  rwa [own, wide] at axis

section broadcast

variable {left right result : Shape}

/-- Both operands are stretched to their join. -/
theorem stretches_of_broadcast (joined : left.broadcast right = .ok result) :
    left.Stretches result ∧ right.Stretches result := by
  obtain ⟨length, axes⟩ := joinReversed_eq_ok_iff.mp (broadcast_eq_ok_iff.mp joined)
  simp only [List.length_reverse] at length
  exact ⟨stretches_of_axes (by omega) fun axis => (stretchesDim_of_joinDims (axes axis)).1,
    stretches_of_axes (by omega) fun axis => (stretchesDim_of_joinDims (axes axis)).2.1⟩

/-- A join of shapes without negative dimensions has none. -/
theorem natural_of_broadcast (joined : left.broadcast right = .ok result)
    (leftNatural : ∀ dim ∈ left, 0 ≤ dim) (rightNatural : ∀ dim ∈ right, 0 ≤ dim) :
    ∀ dim ∈ result, 0 ≤ dim := by
  obtain ⟨-, axes⟩ := joinReversed_eq_ok_iff.mp (broadcast_eq_ok_iff.mp joined)
  have natural {shape : Shape} (all : ∀ dim ∈ shape, 0 ≤ dim) (axis : Nat) :
      0 ≤ shape.reverse.getD axis 1 := by
    rcases Nat.lt_or_ge axis shape.reverse.length with inside | outside
    · rw [List.getD_eq_getElem _ _ inside]
      exact all _ (List.mem_reverse.mp (List.getElem_mem inside))
    · rw [List.getD_eq_default _ _ outside]
      decide
  intro dim member
  obtain ⟨axis, inside, rfl⟩ := List.mem_iff_getElem.mp (List.mem_reverse.mpr member)
  rw [← List.getD_eq_getElem _ 1 inside]
  rcases (stretchesDim_of_joinDims (axes axis)).2.2 with same | same
  · exact same ▸ natural leftNatural axis
  · exact same ▸ natural rightNatural axis

end broadcast

end StaticNet.Shape
