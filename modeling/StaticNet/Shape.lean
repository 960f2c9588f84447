import StaticNet.Text.Lists

/-! # Shapes of tensors

A shape lists the dimensions of a tensor as machine words; the empty shape is a scalar. Products
of dimensions are taken in machine arithmetic. Where a shape may be unknown it is an
`Option Shape`: not knowing the shape of a tensor differs from knowing that it is a scalar.
-/

namespace StaticNet

/-- The dimensions of a tensor, outermost first. -/
abbrev Shape := List Int64

/-- Why shapes do not fit together. -/
inductive ShapeError where
  | invalidDimension (index : Nat) (dim : Int64)
  | axisOutOfRange (axis rank : Int)
  | copiesMissingDimension (target : List Int64) (index : Nat) (source : Shape)
  | inferredTwice (target : List Int64)
  | invalidTarget (target : List Int64) (dim : Int64)
  | cannotInfer (source : Shape) (target : List Int64)
  | countChanges (source : Shape) (target : List Int64)
  | duplicateAxis (axis : Int64)
  | incompatible (left right : Shape) (axis : Nat) (leftDim rightDim : Int64)
  | nothingToConcatenate
  | concatRanks (first other : Shape)
  | concatDimensions (axis : Nat) (first other : Shape)
deriving DecidableEq

namespace Shape

/-- The shape in parentheses; a single dimension keeps its comma. -/
def text (shape : Shape) : String :=
  match shape with
  | [dim] => "(" ++ Text.word dim ++ ",)"
  | dims => "(" ++ Text.commaSeparated dims ++ ")"

/-- The text of a shape that may be unknown. -/
def textOf (shape : Option Shape) : String := text (shape.getD [])

end Shape

/-- The wording of a shape error. -/
def ShapeError.message : ShapeError → String
  | .invalidDimension index dim =>
      "invalid dimension at index " ++ toString index ++ ": " ++ Text.word dim ++ " (must be > 0)"
  | .axisOutOfRange axis rank =>
      "axis " ++ toString axis ++ " out of range for rank " ++ toString rank
  | .copiesMissingDimension target index source =>
      "reshape target " ++ Text.words target ++ " copies missing dimension " ++ toString index ++
        " of " ++ source.text
  | .inferredTwice target => "reshape target " ++ Text.words target ++ " has more than one -1"
  | .invalidTarget target dim =>
      "reshape target " ++ Text.words target ++ " has invalid dimension " ++ Text.word dim
  | .cannotInfer source target =>
      "cannot infer reshape of " ++ source.text ++ " to " ++ Text.words target
  | .countChanges source target =>
      "reshape of " ++ source.text ++ " to " ++ Text.words target ++ " changes element count"
  | .duplicateAxis axis => "duplicate unsqueeze axis " ++ Text.word axis
  | .incompatible left right axis leftDim rightDim =>
      "shapes not compatible for broadcasting: " ++ left.text ++ " vs " ++ right.text ++
        " (dimension " ++ toString axis ++ ": " ++ Text.word leftDim ++ " vs " ++
        Text.word rightDim ++ ")"
  | .nothingToConcatenate => "concat of zero tensors"
  | .concatRanks first other => "concat rank mismatch: " ++ first.text ++ " vs " ++ other.text
  | .concatDimensions axis first other =>
      "concat shape mismatch on axis " ++ toString axis ++ ": " ++ first.text ++ " vs " ++
        other.text

namespace Shape

/-- The number of elements, a machine product; a scalar has one. -/
def elementCount (shape : Shape) : Int64 := shape.foldl (· * ·) 1

/-- Every dimension of a valid shape is positive. -/
def validate (shape : Shape) : Except ShapeError Unit :=
  match shape.zipIdx.find? fun entry => decide (entry.1 ≤ 0) with
  | some (dim, index) => .error (.invalidDimension index dim)
  | none => .ok ()

/-- The distance in elements between neighbours along each axis. -/
def strides : Shape → List Int64
  | [] => []
  | _ :: rest =>
      match rest, strides rest with
      | dim :: _, stride :: strides => stride * dim :: stride :: strides
      | _, _ => [1]

/-- An axis counted from the front; a negative axis counts from the back. The axis is reported as
a machine word. -/
def axisIndex (axis : Int64) (rank : Int) : Except ShapeError Nat :=
  let fromFront := if axis < 0 then axis.toInt + rank else axis.toInt
  if 0 ≤ fromFront ∧ fromFront < rank then .ok fromFront.toNat
  else .error (.axisOutOfRange (fromFront.bmod UInt64.size) rank)

/-- The dimensions of a reshape target, `none` standing for the one to be inferred. -/
def readTarget (source : Shape) (target : List Int64) :
    Nat → Bool → List Int64 → Except ShapeError (List (Option Int64))
  | _, _, [] => .ok []
  | index, inferred, dim :: rest =>
      if dim = 0 then
        match source[index]? with
        | some copied => do
            let dims ← readTarget source target (index + 1) inferred rest
            return some copied :: dims
        | none => .error (.copiesMissingDimension target index source)
      else if dim = -1 then
        if inferred then .error (.inferredTwice target)
        else do
          let dims ← readTarget source target (index + 1) true rest
          return none :: dims
      else if dim < 0 then .error (.invalidTarget target dim)
      else do
        let dims ← readTarget source target (index + 1) inferred rest
        return some dim :: dims

/-- The shape that a reshape target asks for: `0` copies a dimension of the source, one `-1` is
inferred, and the element count must not change. -/
def reshape (source : Shape) (target : List Int64) : Except ShapeError Shape := do
  let dims ← readTarget source target 0 false target
  let known := elementCount (dims.filterMap id)
  let total := source.elementCount
  if dims.contains none then
    if known = 0 ∨ total % known ≠ 0 then throw (.cannotInfer source target)
    else return dims.map fun dim => dim.getD (total / known)
  else if known ≠ total then throw (.countChanges source target)
  else return dims.filterMap id

/-- The positions of the inserted axes, each named once. -/
def insertedAxes (rank : Nat) : List Nat → List Int64 → Except ShapeError (List Nat)
  | inserted, [] => .ok inserted
  | inserted, axis :: rest => do
      let position ← axisIndex axis rank
      if inserted.contains position then throw (.duplicateAxis axis)
      insertedAxes rank (inserted ++ [position]) rest

/-- Lay the dimensions out over the positions, with a one at every inserted position. -/
def weave (inserted : List Nat) : List Nat → Shape → Shape
  | [], _ => []
  | position :: positions, dims =>
      if inserted.contains position then 1 :: weave inserted positions dims
      else
        match dims with
        | [] => []
        | dim :: rest => dim :: weave inserted positions rest

/-- Insert dimensions of size one at the given axes of the result. -/
def unsqueeze (shape : Shape) (axes : List Int64) : Except ShapeError Shape := do
  let rank := shape.length + axes.length
  let inserted ← insertedAxes rank [] axes
  return weave inserted (List.range rank) shape

/-- The common dimension of two dimensions, of which one may be stretched from one. -/
def joinDims (left right : Int64) : Option Int64 :=
  if left = right then some left
  else if left = 1 then some right
  else if right = 1 then some left
  else none

/-- Join two shapes given innermost dimension first; a missing dimension is one. On failure the
number of dimensions joined before is reported with the two that differ. -/
def joinReversed : List Int64 → List Int64 → Except (Nat × Int64 × Int64) (List Int64)
  | [], [] => .ok []
  | left :: lefts, [] => step left 1 (joinReversed lefts [])
  | [], right :: rights => step 1 right (joinReversed [] rights)
  | left :: lefts, right :: rights => step left right (joinReversed lefts rights)
where
  /-- Put the join of two dimensions in front of the join of the outer ones. -/
  step (left right : Int64) (outer : Except (Nat × Int64 × Int64) (List Int64)) :
      Except (Nat × Int64 × Int64) (List Int64) :=
    match joinDims left right, outer with
    | none, _ => .error (0, left, right)
    | some _, .error (depth, failed) => .error (depth + 1, failed)
    | some dim, .ok dims => .ok (dim :: dims)

/-- Whether one of the two shapes has to be stretched to their join. -/
def needsStretching (left right : Shape) : Bool :=
  left.length ≠ right.length || (left.zip right).any fun pair => pair.1 ≠ pair.2

/-- The join of two shapes aligned at their innermost dimensions. -/
def broadcast (left right : Shape) : Except ShapeError Shape :=
  match joinReversed left.reverse right.reverse with
  | .ok dims => .ok dims.reverse
  | .error (depth, leftDim, rightDim) =>
      let rank := max left.length right.length
      .error (.incompatible left right (rank - 1 - depth) leftDim rightDim)

/-- Check that two shapes agree on every axis but one. -/
def checkAligned (first : Shape) (axis : Nat) (shape : Shape) : Except ShapeError Unit :=
  if shape.length ≠ first.length then .error (.concatRanks first shape)
  else
    let mismatch := (first.zip shape).zipIdx.find? fun entry =>
      entry.2 ≠ axis && entry.1.1 ≠ entry.1.2
    match mismatch with
    | some (_, index) => .error (.concatDimensions index first shape)
    | none => .ok ()

/-- Join shapes along an axis, on which their sizes add up. -/
def concat (shapes : List Shape) (axis : Int64) : Except ShapeError Shape :=
  match shapes with
  | [] => .error .nothingToConcatenate
  | first :: rest => do
      let position ← axisIndex axis first.length
      rest.foldlM (fun joined shape => do
        checkAligned first position shape
        return joined.set position (joined.getD position 0 + shape.getD position 0)) first

end Shape

end StaticNet
