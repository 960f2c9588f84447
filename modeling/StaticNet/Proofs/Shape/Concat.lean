import StaticNet.Proofs.Outcome
import StaticNet.Shape

/-! # Concatenated shapes

Shapes that can be concatenated differ on the axis alone: they have the dimensions before it and
after it in common, and so has the result, whose size on the axis is the sum of theirs.
-/

namespace StaticNet.Shape

theorem axisIndex_lt {axis : Int64} {rank position : Nat}
    (found : axisIndex axis rank = .ok position) : position < rank := by
  rw [axisIndex] at found
  generalize (if axis < 0 then axis.toInt + rank else axis.toInt) = fromFront at found
  split at found
  · next inside =>
    cases found
    omega
  · cases found

/-- Shapes are aligned when they have the same number of dimensions and agree on every other
axis. -/
theorem checkAligned_eq_ok_iff {first shape : Shape} {axis : Nat} :
    checkAligned first axis shape = .ok () ↔
      shape.length = first.length ∧ ∀ index ≠ axis, shape[index]? = first[index]? := by
  rw [checkAligned]
  by_cases ranks : shape.length = first.length
  · rw [if_neg (not_not_intro ranks)]
    have entries : ((first.zip shape).zipIdx.find? fun entry =>
          entry.2 ≠ axis && entry.1.1 ≠ entry.1.2) = none ↔
        ∀ index ≠ axis, shape[index]? = first[index]? := by
      rw [List.find?_eq_none]
      constructor
      · intro agree index other
        by_cases inside : index < first.length
        · have ours := List.getElem?_eq_getElem inside
          have theirs := List.getElem?_eq_getElem (ranks ▸ inside : index < shape.length)
          have member : ((first[index], shape[index]), index) ∈ (first.zip shape).zipIdx :=
            List.mk_mem_zipIdx_iff_getElem?.mpr (List.getElem?_zip_eq_some.mpr ⟨ours, theirs⟩)
          have same := agree _ member
          simp only [other, ne_eq, not_false_eq_true, decide_true, Bool.true_and,
            decide_eq_true_eq, Decidable.not_not] at same
          rw [ours, theirs, same]
        · rw [List.getElem?_eq_none (by omega), List.getElem?_eq_none (by omega)]
      · rintro agree ⟨⟨dim, size⟩, index⟩ member
        obtain ⟨ours, theirs⟩ :=
          List.getElem?_zip_eq_some.mp (List.mk_mem_zipIdx_iff_getElem?.mp member)
        by_cases other : index = axis
        · simp [other]
        · have same : dim = size := by rwa [agree index other, ours, Option.some.injEq] at theirs
          simp [same]
    rw [← entries, and_iff_right ranks]
    dsimp only
    split
    · next found =>
      rw [found]
      exact iff_of_false nofun nofun
    · next unfound => exact iff_of_true rfl unfound
  · simp [ranks]

/-- Shapes are aligned when they have the dimensions before and after the axis in common. -/
theorem checkAligned_append_eq_ok_iff {before after shape : Shape} {dim : Int64} :
    checkAligned (before ++ dim :: after) before.length shape = .ok () ↔
      ∃ size, shape = before ++ size :: after := by
  rw [checkAligned_eq_ok_iff]
  constructor
  · rintro ⟨ranks, agree⟩
    have own : before.length < shape.length := by
      rw [ranks, List.length_append, List.length_cons]
      omega
    refine ⟨shape[before.length], List.ext_getElem? fun index => ?_⟩
    by_cases axis : index = before.length
    · subst axis
      rw [List.getElem?_eq_getElem own, List.getElem?_append_right (Nat.le_refl _), Nat.sub_self]
      rfl
    · rw [agree index axis, List.getElem?_append, List.getElem?_append]
      split
      · rfl
      · rw [List.getElem?_cons, List.getElem?_cons, if_neg (by omega), if_neg (by omega)]
  · rintro ⟨size, rfl⟩
    refine ⟨by simp, fun index axis => ?_⟩
    rw [List.getElem?_append, List.getElem?_append]
    split
    · rfl
    · rw [List.getElem?_cons, List.getElem?_cons, if_neg (by omega), if_neg (by omega)]

/-- Joining further shapes adds up their sizes on the axis. -/
theorem joinSizes_eq_ok {before after : Shape} {first total : Int64} {rest : List Shape}
    {dims : Shape}
    (done : (rest.foldlM (fun joined shape => do
        checkAligned (before ++ first :: after) before.length shape
        return joined.set before.length
          (joined.getD before.length 0 + shape.getD before.length 0))
      (before ++ total :: after) : Except ShapeError Shape) = .ok dims) :
    ∃ sizes : List Int64, rest = sizes.map (fun size => before ++ size :: after) ∧
      dims = before ++ sizes.foldl (· + ·) total :: after := by
  induction rest generalizing total with
  | nil =>
    cases done
    exact ⟨[], rfl, rfl⟩
  | cons shape rest ih =>
    rw [List.foldlM_cons] at done
    obtain ⟨joined, step, done⟩ := Outcome.bind_eq_ok_iff.mp done
    obtain ⟨_, aligned, step⟩ := Outcome.bind_eq_ok_iff.mp step
    obtain ⟨size, rfl⟩ := checkAligned_append_eq_ok_iff.mp aligned
    cases step
    have summed : (before ++ total :: after).set before.length
        ((before ++ total :: after).getD before.length 0 +
          (before ++ size :: after).getD before.length 0) = before ++ (total + size) :: after := by
      simp
    rw [summed] at done
    obtain ⟨sizes, rfl, rfl⟩ := ih done
    exact ⟨size :: sizes, rfl, rfl⟩

/-- Shapes that can be concatenated differ on the axis alone, where their sizes add up. -/
theorem concat_eq_ok {shapes : List Shape} {axis : Int64} {dims : Shape}
    (done : concat shapes axis = .ok dims) :
    ∃ (before after : Shape) (sizes : List Int64),
      shapes = sizes.map (fun size => before ++ size :: after) ∧
        dims = before ++ sizes.foldl (· + ·) 0 :: after ∧
        axisIndex axis dims.length = .ok before.length := by
  cases shapes with
  | nil => cases done
  | cons first rest =>
    obtain ⟨position, found, done⟩ := Outcome.bind_eq_ok_iff.mp done
    have inside := axisIndex_lt found
    have split : first = first.take position ++ first[position] :: first.drop (position + 1) := by
      rw [← List.drop_eq_getElem_cons inside, List.take_append_drop]
    have length : (first.take position).length = position := by
      rw [List.length_take]
      omega
    generalize first.take position = before at split length
    generalize first.drop (position + 1) = after at split
    generalize first[position] = size at split
    subst split length
    obtain ⟨sizes, rfl, rfl⟩ := joinSizes_eq_ok done
    refine ⟨before, after, size :: sizes, rfl, ?_, ?_⟩
    · simp
    · simpa using found

end StaticNet.Shape
