import StaticNet.Propagation.Transfer

/-! # Transfer of arithmetic operators

Element-wise operators stretch their operands to a common shape and fold when both values are
known. Matrix products are known by their shape only.
-/

namespace StaticNet.Transfer

/-- The quotient of integers drops its fraction. -/
def truncateQuotients (tensor : Tensor) : Tensor :=
  { tensor with data := tensor.data.map fun x => Binary64.ofInt x.toWord.toInt }

/-- An element-wise operator. -/
def pointwise (op : Binary64 → Binary64 → Binary64) (node : Node) (inputs : List Knowledge) :
    TransferResult := do
  let (left, leftShape) ← knownAt inputs 0
  let (right, rightShape) ← knownAt inputs 1
  let output ← liftShape (Shape.broadcast leftShape rightShape)
  match left.value?, right.value? with
  | some x, some y => do
      let folded ← liftTensor (Tensor.zipBroadcast op output x y)
      let truncates := x.type.isInteger && node.op = "Div"
      return [.exact (if truncates then truncateQuotients folded else folded)]
  | _, _ => return [.shape output]

/-- A vector as a matrix: a row on the left of a product, a column on the right. -/
def asMatrix (shape : Shape) (left : Bool) : Shape :=
  match shape with
  | [size] => if left then [1, size] else [size, 1]
  | _ => shape

/-- The shape of a matrix product. Vectors are promoted and the added axis is removed again;
leading axes are stretched. -/
def matrixProduct (left right : Shape) : Except TransferError Shape :=
  if left.isEmpty ∨ right.isEmpty then .error (.productOfScalars left right)
  else
    let a := asMatrix left true
    let b := asMatrix right false
    let rows := a.getD (a.length - 2) 0
    let columns := b.getD (b.length - 1) 0
    if a.getD (a.length - 1) 0 ≠ b.getD (b.length - 2) 0 then .error (.productSizes a b)
    else do
      let batch ← liftShape (Shape.broadcast (a.take (a.length - 2)) (b.take (b.length - 2)))
      let rowAxis := if left.length = 1 then [] else [rows]
      let columnAxis := if right.length = 1 then [] else [columns]
      return batch ++ rowAxis ++ columnAxis

/-- A matrix product. -/
def matMul (_ : Node) (inputs : List Knowledge) : TransferResult := do
  let (_, left) ← knownAt inputs 0
  let (_, right) ← knownAt inputs 1
  return [.shape (← matrixProduct left right)]

/-- A product of two matrices, either of which may be transposed. -/
def gemm (node : Node) (inputs : List Knowledge) : TransferResult := do
  let (_, left) ← knownAt inputs 0
  let (_, right) ← knownAt inputs 1
  match left, right with
  | [a, b], [c, d] =>
      let (rows, inner) := if node.attributes.int "transA" 0 ≠ 0 then (b, a) else (a, b)
      let (inner', columns) := if node.attributes.int "transB" 0 ≠ 0 then (d, c) else (c, d)
      if inner ≠ inner' then throw (.gemmSizes left right)
      return [.shape [rows, columns]]
  | _, _ => throw (.gemmRanks left right)

end StaticNet.Transfer
