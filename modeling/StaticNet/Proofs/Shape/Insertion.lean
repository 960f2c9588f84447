import Mathlib.Data.List.Nodup
import StaticNet.Proofs.Outcome
import StaticNet.Proofs.Shape.Count

/-! # Inserted axes

Inserting axes succeeds exactly when they name different positions of the result. The dimensions of
the shape are then laid out in order over the other positions, of which there are as many, so that
none is missing and none is left.
-/

namespace StaticNet.Shape

/-! ## Positions of axes -/

/-- An axis names a position of a rank, counted from the front or from the back. -/
def NamesPosition (rank : Nat) (axis : Int64) : Prop := -rank ≤ axis.toInt ∧ axis.toInt < rank

/-- The position that an axis names; a negative axis counts from the back. -/
def positionOf (rank : Nat) (axis : Int64) : Nat :=
  (if axis.toInt < 0 then axis.toInt + rank else axis.toInt).toNat

theorem positionOf_lt {rank : Nat} {axis : Int64} (names : NamesPosition rank axis) :
    positionOf rank axis < rank := by
  obtain ⟨lower, upper⟩ := names
  rw [positionOf]
  split <;> omega

theorem axisIndex_eq_ok_iff {axis : Int64} {rank position : Nat} :
    axisIndex axis rank = .ok position ↔
      NamesPosition rank axis ∧ position = positionOf rank axis := by
  have negative : axis < 0 ↔ axis.toInt < 0 := Int64.lt_iff_toInt_lt
  simp only [axisIndex, negative, NamesPosition, positionOf]
  generalize axis.toInt = value
  split <;> split <;> simp only [Except.ok.injEq, reduceCtorEq, false_iff] <;> omega

/-- The first axis must name a position that was not named before. -/
theorem insertedAxes_cons_eq_ok_iff {rank : Nat} {named positions : List Nat} {axis : Int64}
    {rest : List Int64} :
    insertedAxes rank named (axis :: rest) = .ok positions ↔
      NamesPosition rank axis ∧ positionOf rank axis ∉ named ∧
        insertedAxes rank (named ++ [positionOf rank axis]) rest = .ok positions := by
  rw [insertedAxes, Outcome.bind_eq_ok_iff]
  constructor
  · rintro ⟨position, found, others⟩
    obtain ⟨names, rfl⟩ := axisIndex_eq_ok_iff.mp found
    obtain ⟨unnamed, others⟩ := Outcome.of_refusal others
    exact ⟨names, fun member => unnamed (List.contains_iff_mem.mpr member), others⟩
  · rintro ⟨names, unnamed, others⟩
    refine ⟨_, axisIndex_eq_ok_iff.mpr ⟨names, rfl⟩, ?_⟩
    rw [if_neg fun listed => unnamed (List.contains_iff_mem.mp listed)]
    exact others

/-- Positions are collected exactly when all axes name positions and no position is named twice. -/
theorem insertedAxes_eq_ok_iff {rank : Nat} {named positions : List Nat} {axes : List Int64}
    (distinct : named.Nodup) :
    insertedAxes rank named axes = .ok positions ↔
      (∀ axis ∈ axes, NamesPosition rank axis) ∧ (named ++ axes.map (positionOf rank)).Nodup ∧
        positions = named ++ axes.map (positionOf rank) := by
  induction axes generalizing named with
  | nil => simp [insertedAxes, distinct, eq_comm]
  | cons axis rest ih =>
    rw [insertedAxes_cons_eq_ok_iff, List.forall_mem_cons, List.map_cons,
      List.append_cons named _ (rest.map _)]
    by_cases member : positionOf rank axis ∈ named
    · have repeated : ¬ (named ++ [positionOf rank axis] ++ rest.map (positionOf rank)).Nodup :=
        fun distinct => (List.nodup_append.mp (List.nodup_append.mp distinct).1).2.2 _ member _
          (List.mem_singleton_self _) rfl
      simp only [member, repeated, not_true_eq_false, false_and, and_false]
    · have extended : (named ++ [positionOf rank axis]).Nodup :=
        List.concat_eq_append ▸ distinct.concat member
      rw [ih extended]
      simp only [member, not_false_eq_true, true_and, and_assoc]

/-! ## Dimensions laid out over positions -/

/-- The dimensions are laid out over the positions in order: an inserted position holds a one, any
other one takes the next dimension. None is missing and none is left. -/
inductive LaysOut (inserted : List Nat) : List Nat → Shape → Shape → Prop
  | done : LaysOut inserted [] [] []
  | one {position : Nat} {positions : List Nat} {dims result : Shape} :
      position ∈ inserted → LaysOut inserted positions dims result →
      LaysOut inserted (position :: positions) dims (1 :: result)
  | next {position : Nat} {positions : List Nat} {dim : Int64} {dims result : Shape} :
      position ∉ inserted → LaysOut inserted positions dims result →
      LaysOut inserted (position :: positions) (dim :: dims) (dim :: result)

theorem weave_cons_of_mem {inserted positions : List Nat} {position : Nat} (dims : Shape)
    (member : position ∈ inserted) :
    weave inserted (position :: positions) dims = 1 :: weave inserted positions dims := by
  rw [weave.eq_def]
  exact if_pos (List.contains_iff_mem.mpr member)

theorem weave_cons_of_not_mem {inserted positions : List Nat} {position : Nat} {dim : Int64}
    {dims : Shape} (other : position ∉ inserted) :
    weave inserted (position :: positions) (dim :: dims) =
      dim :: weave inserted positions dims := by
  rw [weave.eq_def]
  exact if_neg fun listed => other (List.contains_iff_mem.mp listed)

/-- There is a dimension for every position that is not inserted if there are as many. -/
theorem laysOut_weave {inserted positions : List Nat} {dims : Shape}
    (fits : positions.countP (· ∉ inserted) = dims.length) :
    LaysOut inserted positions dims (weave inserted positions dims) := by
  induction positions generalizing dims with
  | nil =>
    obtain rfl := List.length_eq_zero_iff.mp fits.symm
    exact .done
  | cons position positions ih =>
    by_cases member : position ∈ inserted
    · rw [List.countP_cons_of_neg (by simpa using member)] at fits
      rw [weave_cons_of_mem dims member]
      exact .one member (ih fits)
    · rw [List.countP_cons_of_pos (by simpa using member)] at fits
      cases dims with
      | nil => cases fits
      | cons dim dims =>
        rw [weave_cons_of_not_mem member]
        exact .next member (ih (Nat.succ.inj fits))

namespace LaysOut

variable {inserted positions : List Nat} {dims result : Shape}

theorem length_eq (laid : LaysOut inserted positions dims result) :
    result.length = positions.length := by
  induction laid with
  | done => rfl
  | one _ _ ih => rw [List.length_cons, List.length_cons, ih]
  | next _ _ ih => rw [List.length_cons, List.length_cons, ih]

theorem getElem?_of_mem (laid : LaysOut inserted positions dims result) {index position : Nat}
    (here : positions[index]? = some position) (member : position ∈ inserted) :
    result[index]? = some 1 := by
  induction laid generalizing index with
  | done => cases here
  | one _ _ ih =>
    cases index with
    | zero => rfl
    | succ index => exact ih here
  | next other _ ih =>
    cases index with
    | zero =>
      cases here
      exact absurd member other
    | succ index => exact ih here

/-- A position that is not inserted takes the dimension whose number is that of the earlier ones,
and there is one. -/
theorem getElem?_of_not_mem (laid : LaysOut inserted positions dims result) {index position : Nat}
    (here : positions[index]? = some position) (other : position ∉ inserted) :
    (positions.take index).countP (· ∉ inserted) < dims.length ∧
      result[index]? = dims[(positions.take index).countP (· ∉ inserted)]? := by
  induction laid generalizing index with
  | done => cases here
  | one member _ ih =>
    cases index with
    | zero =>
      cases here
      exact absurd member other
    | succ index =>
      rw [List.take_succ_cons, List.countP_cons_of_neg (by simpa using member)]
      exact ih here
  | next first _ ih =>
    cases index with
    | zero => exact ⟨Nat.succ_pos _, rfl⟩
    | succ index =>
      rw [List.take_succ_cons, List.countP_cons_of_pos (by simpa using first)]
      obtain ⟨below, same⟩ := ih here
      exact ⟨Nat.succ_lt_succ below, same⟩

/-- What is not at an inserted position are the dimensions in order. -/
theorem filter_zip (laid : LaysOut inserted positions dims result) :
    ((result.zip positions).filter fun entry => entry.2 ∉ inserted).map Prod.fst = dims := by
  induction laid with
  | done => rfl
  | one member _ ih =>
    rw [List.zip_cons_cons, List.filter_cons_of_neg (by simpa using member), ih]
  | next other _ ih =>
    rw [List.zip_cons_cons, List.filter_cons_of_pos (by simpa using other), List.map_cons, ih]

theorem eq_weave (laid : LaysOut inserted positions dims result) :
    result = weave inserted positions dims := by
  induction laid with
  | done => rfl
  | one member _ ih => rw [weave_cons_of_mem _ member, ih]
  | next other _ ih => rw [weave_cons_of_not_mem other, ih]

/-- It does not matter in which order the positions are inserted. -/
theorem congr {others : List Nat} (laid : LaysOut inserted positions dims result)
    (same : ∀ position, position ∈ inserted ↔ position ∈ others) :
    LaysOut others positions dims result := by
  induction laid with
  | done => exact .done
  | one member _ ih => exact .one ((same _).mp member) ih
  | next other _ ih => exact .next (fun member => other ((same _).mpr member)) ih

theorem exactCount_eq (laid : LaysOut inserted positions dims result) :
    result.exactCount = dims.exactCount := by
  induction laid with
  | done => rfl
  | one _ _ ih => rw [exactCount_cons, Int64.toInt_one, Int.one_mul, ih]
  | next _ _ ih => rw [exactCount_cons, exactCount_cons, ih]

end LaysOut

/-! ## Inserting axes -/

/-- Distinct positions of a rank leave the other ones to the dimensions. -/
theorem countP_range_not_mem {inserted : List Nat} {rank : Nat} (distinct : inserted.Nodup)
    (below : ∀ position ∈ inserted, position < rank) :
    (List.range rank).countP (· ∉ inserted) + inserted.length = rank := by
  have same : ((List.range rank).filter (· ∈ inserted)).Perm inserted := by
    refine (List.perm_ext_iff_of_nodup (List.nodup_range.filter _) distinct).mpr fun position => ?_
    simpa using below position
  have split := List.length_eq_countP_add_countP (· ∈ inserted) (l := List.range rank)
  rw [List.countP_eq_length_filter (p := (· ∈ inserted)), same.length_eq,
    List.length_range] at split
  simpa [Nat.add_comm] using split.symm

/-- The positions that axes name in the result of inserting them. -/
def insertedPositions (shape : Shape) (axes : List Int64) : List Nat :=
  axes.map (positionOf (shape.length + axes.length))

/-- Axes can be inserted when they name different positions of the result. -/
structure Insertable (shape : Shape) (axes : List Int64) : Prop where
  names : ∀ axis ∈ axes, NamesPosition (shape.length + axes.length) axis
  distinct : (shape.insertedPositions axes).Nodup

namespace Insertable

variable {shape : Shape} {axes : List Int64}

theorem below (insertable : shape.Insertable axes) :
    ∀ position ∈ shape.insertedPositions axes, position < shape.length + axes.length := by
  intro position member
  obtain ⟨axis, listed, rfl⟩ := List.mem_map.mp member
  exact positionOf_lt (insertable.names axis listed)

/-- The dimensions of the shape fill the positions that are not inserted. -/
theorem laysOut (insertable : shape.Insertable axes) :
    LaysOut (shape.insertedPositions axes) (List.range (shape.length + axes.length)) shape
      (weave (shape.insertedPositions axes) (List.range (shape.length + axes.length)) shape) := by
  have counted := countP_range_not_mem insertable.distinct insertable.below
  have length : (shape.insertedPositions axes).length = axes.length := List.length_map _
  exact laysOut_weave (by omega)

end Insertable

theorem unsqueeze_eq_ok_iff {shape result : Shape} {axes : List Int64} :
    shape.unsqueeze axes = .ok result ↔ shape.Insertable axes ∧
      LaysOut (shape.insertedPositions axes) (List.range (shape.length + axes.length)) shape
        result := by
  rw [unsqueeze, Outcome.bind_eq_ok_iff]
  simp only [insertedAxes_eq_ok_iff List.nodup_nil, List.nil_append, pure, Except.pure,
    Except.ok.injEq]
  constructor
  · rintro ⟨_, ⟨names, distinct, rfl⟩, rfl⟩
    have insertable : shape.Insertable axes := ⟨names, distinct⟩
    exact ⟨insertable, insertable.laysOut⟩
  · rintro ⟨insertable, laid⟩
    exact ⟨_, ⟨insertable.names, insertable.distinct, rfl⟩, laid.eq_weave.symm⟩

/-- What is left of the dimensions when those at the given positions are deleted. -/
def deleteAt (dims : Shape) (positions : List Nat) : Shape :=
  (dims.zipIdx.filter fun entry => entry.2 ∉ positions).map Prod.fst

/-- The number of positions before a given one that are not inserted: how far the dimensions have
been read when it is reached. -/
def readBefore (inserted : List Nat) (position : Nat) : Nat :=
  (List.range position).countP (· ∉ inserted)

/-- The result is the shape with a one inserted at each of the given positions. At every other
position the next dimension of the shape is read, which is there. -/
structure Inserts (shape : Shape) (inserted : List Nat) (result : Shape) : Prop where
  rank : result.length = shape.length + inserted.length
  ones : ∀ position ∈ inserted, result[position]? = some 1
  reads : ∀ position < result.length, position ∉ inserted →
    readBefore inserted position < shape.length ∧
      result[position]? = shape[readBefore inserted position]?
  deleted : result.deleteAt inserted = shape
  count : result.elementCount = shape.elementCount

theorem LaysOut.inserts {inserted : List Nat} {shape result : Shape}
    (laid : LaysOut inserted (List.range (shape.length + inserted.length)) shape result)
    (below : ∀ position ∈ inserted, position < shape.length + inserted.length) :
    shape.Inserts inserted result := by
  have rank : result.length = shape.length + inserted.length :=
    laid.length_eq.trans List.length_range
  refine ⟨rank, fun position member => ?_, fun position inside other => ?_, ?_, ?_⟩
  · exact laid.getElem?_of_mem (List.getElem?_range (below position member)) member
  · rw [rank] at inside
    have read := laid.getElem?_of_not_mem (List.getElem?_range inside) other
    rwa [List.take_range, Nat.min_eq_left (Nat.le_of_lt inside)] at read
  · rw [deleteAt, List.zipIdx_eq_zip_range', ← List.range_eq_range', rank]
    exact laid.filter_zip
  · rw [elementCount_eq, elementCount_eq, laid.exactCount_eq]

/-- Inserting axes in another order has the same result. -/
theorem unsqueeze_perm {shape result : Shape} {axes others : List Int64}
    (reordered : axes.Perm others) (done : shape.unsqueeze axes = .ok result) :
    shape.unsqueeze others = .ok result := by
  have positions : (shape.insertedPositions axes).Perm (shape.insertedPositions others) := by
    rw [insertedPositions, insertedPositions, reordered.length_eq]
    exact reordered.map _
  obtain ⟨⟨names, distinct⟩, laid⟩ := unsqueeze_eq_ok_iff.mp done
  have insertable : shape.Insertable others :=
    ⟨fun axis listed => reordered.length_eq ▸ names axis (reordered.mem_iff.mpr listed),
      positions.nodup_iff.mp distinct⟩
  rw [unsqueeze_eq_ok_iff, ← reordered.length_eq]
  exact ⟨insertable, laid.congr fun _ => positions.mem_iff⟩

/-- Axes are inserted exactly when they name different positions of the result. Then there is a one
at each of them and the shape at the others, and the order of the axes does not matter. -/
theorem unsqueeze_inserts (shape : Shape) (axes : List Int64) :
    ((∃ result, shape.unsqueeze axes = .ok result) ↔ shape.Insertable axes) ∧
      (∀ result, shape.unsqueeze axes = .ok result →
        shape.Inserts (shape.insertedPositions axes) result) ∧
      ∀ others, axes.Perm others →
        (shape.unsqueeze others).toOption = (shape.unsqueeze axes).toOption := by
  have insertable {result : Shape} (done : shape.unsqueeze axes = .ok result) :=
    (unsqueeze_eq_ok_iff.mp done).1
  refine ⟨⟨fun ⟨_, done⟩ => insertable done, fun insertable =>
    ⟨_, unsqueeze_eq_ok_iff.mpr ⟨insertable, insertable.laysOut⟩⟩⟩, fun result done => ?_,
    fun others reordered => ?_⟩
  · have length : (shape.insertedPositions axes).length = axes.length := List.length_map _
    have laid := (unsqueeze_eq_ok_iff.mp done).2
    rw [← length] at laid
    exact laid.inserts (length ▸ (insertable done).below)
  · ext result
    rw [Outcome.toOption_eq_some_iff, Outcome.toOption_eq_some_iff]
    exact ⟨unsqueeze_perm reordered.symm, unsqueeze_perm reordered⟩

/-- Two axes at the front, of which one is counted from the back, and one in between. -/
theorem unsqueeze_inserts_mixed :
    Shape.unsqueeze [2, 3] [3, 0, -4] = .ok [1, 1, 2, 1, 3] ∧
      Shape.Inserts [2, 3] [3, 0, 1] [1, 1, 2, 1, 3] ∧
      (Shape.unsqueeze [2, 3] [-4, 3, 0]).toOption = some [1, 1, 2, 1, 3] ∧
      ¬ ∃ result, Shape.unsqueeze [2, 3] [0, -5, 3] = .ok result := by
  obtain ⟨-, inserts, order⟩ := unsqueeze_inserts [2, 3] [3, 0, -4]
  have done : Shape.unsqueeze [2, 3] [3, 0, -4] = .ok [1, 1, 2, 1, 3] := rfl
  refine ⟨done, inserts _ done, ?_, fun twice => ?_⟩
  · rw [order [-4, 3, 0] (by decide), done]
    rfl
  · exact absurd ((unsqueeze_inserts [2, 3] [0, -5, 3]).1.mp twice).distinct (by decide)

end StaticNet.Shape
