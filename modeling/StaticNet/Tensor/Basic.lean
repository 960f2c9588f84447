import StaticNet.Shape
import StaticNet.Tensor.ElementType

/-! # Constant tensors

A tensor has a shape, an element type and its elements in row-major order. Elements are kept in
double precision whatever the element type. A tensor of one element may leave its shape unstated;
it then counts as a scalar.

Dimensions are machine words that may be negative or may wrap around when multiplied. An operation
that would then reserve a negative or absurd number of elements, or touch an element outside its
data, ends in `TensorError.trap`. Gathering and joining reserve room by the result shape and fill it
block by block: where negative dimensions leave no block to fill, the room stays as zeros behind the
data, which slices of the result still reach.
-/

namespace StaticNet

/-- A constant tensor: its shape, if stated, its elements, and the number of reserved zeros that
stand behind them. -/
structure Tensor where
  shape : Option Shape
  type : ElementType
  data : List Binary64
  spare : Nat := 0
deriving DecidableEq

instance : Inhabited Tensor := ⟨⟨some [], .float32, [default], 0⟩⟩

/-- Why an operation on tensors has no result. -/
inductive TensorError where
  | shape (cause : ShapeError)
  | elementCount (shape : Shape) (given : Nat)
  | indexOutOfRange (index size : Int64)
  | trap
deriving DecidableEq

/-- The wording of a tensor error. -/
def TensorError.message : TensorError → String
  | .shape cause => cause.message
  | .elementCount dims given =>
      "array of shape " ++ dims.text ++ " needs " ++ Text.word dims.elementCount ++
        " elements, got " ++ toString given
  | .indexOutOfRange index size =>
      "gather index " ++ Text.word index ++ " out of range for axis of size " ++ Text.word size
  | .trap => "trap"

/-- A shape computation as part of a tensor computation. -/
def liftShape {α : Type} (result : Except ShapeError α) : Except TensorError α :=
  result.mapError .shape

/-- The number of bytes beyond which no list of elements is reserved. -/
def largestReservation : Nat := 0x1000000000000

/-- The number of elements to reserve for a machine count. -/
def reserve (elementSize : Nat) (count : Int64) : Except TensorError Nat :=
  if count < 0 ∨ largestReservation < count.toInt.toNat * elementSize then .error .trap
  else .ok count.toInt.toNat

/-- The element at a machine position. -/
def elementAt {α : Type} (data : Array α) (position : Int64) : Except TensorError α :=
  if position < 0 then .error .trap
  else
    match data[position.toInt.toNat]? with
    | some element => .ok element
    | none => .error .trap

/-- The results of a step at so many machine numbers, beginning with the given one. Those of the
numbers before it are given last first. -/
def tabulateFrom {ε α : Type} (step : Int64 → Except ε α) :
    Nat → Int64 → List α → Except ε (List α)
  | 0, _, done => .ok done.reverse
  | count + 1, position, done =>
      match step position with
      | .ok result => tabulateFrom step count (position + 1) (result :: done)
      | .error cause => .error cause

/-- The results of a step at the machine numbers from zero up to a count. The first failure ends
it, so that the count may be far larger than the number of steps. -/
def tabulate {ε α : Type} (count : Nat) (step : Int64 → Except ε α) : Except ε (List α) :=
  tabulateFrom step count 0 []

namespace Tensor

/-- The dimensions; a tensor without a stated shape has none. -/
def dims (tensor : Tensor) : Shape := tensor.shape.getD []

/-- The number of dimensions. -/
def rank (tensor : Tensor) : Nat := tensor.dims.length

/-- A tensor whose data must have as many elements as its shape asks for. -/
def ofData (shape : Option Shape) (type : ElementType) (data : List Binary64) :
    Except TensorError Tensor :=
  let dims := shape.getD []
  if Int64.ofNat data.length = dims.elementCount then .ok { shape, type, data }
  else .error (.elementCount dims data.length)

/-- A tensor of single precision numbers. -/
def ofSingles (shape : Option Shape) (values : List Binary32) : Except TensorError Tensor :=
  ofData shape .float32 (values.map Binary64.ofBinary32)

/-- A tensor of machine words. -/
def ofWords (shape : Option Shape) (values : List Int64) : Except TensorError Tensor :=
  ofData shape .int64 (values.map fun n => Binary64.ofInt n.toInt)

/-- A tensor of one element. -/
def scalar (type : ElementType) (value : Binary64) : Tensor :=
  { shape := some [], type, data := [value] }

/-- A one-dimensional tensor. -/
def line (type : ElementType) (data : List Binary64) : Tensor :=
  { shape := some [Int64.ofNat data.length], type, data }

/-- A one-dimensional tensor of machine words. -/
def vector (values : List Int64) : Tensor :=
  line .int64 (values.map fun n => Binary64.ofInt n.toInt)

/-- A tensor of zeros. -/
def zeros (shape : Option Shape) (type : ElementType) : Except TensorError Tensor := do
  let count ← reserve 8 (Shape.elementCount (shape.getD []))
  return { shape, type, data := List.replicate count (Binary64.zero false) }

/-- Same element type, shape and numbers; not-a-number equals itself and the zeros agree. -/
def agrees (left right : Tensor) : Bool :=
  left.type = right.type && left.dims = right.dims && left.data.length = right.data.length &&
    (left.data.zip right.data).all fun pair => pair.1.agrees pair.2

/-- Agreement of tensors that may be missing. -/
def agreesOption : Option Tensor → Option Tensor → Bool
  | none, none => true
  | some left, some right => left.agrees right
  | _, _ => false

/-- The elements in single precision. -/
def singles (tensor : Tensor) : List Binary32 := tensor.data.map Binary64.toBinary32

/-- The integer parts of the elements. -/
def words (tensor : Tensor) : List Int64 := tensor.data.map Binary64.toWord

/-- The same data under a reshape target. -/
def reshape (tensor : Tensor) (target : List Int64) : Except TensorError Tensor := do
  let dims ← liftShape (tensor.dims.reshape target)
  return { tensor with shape := some dims, spare := 0 }

/-- The same data with dimensions of size one inserted. -/
def unsqueeze (tensor : Tensor) (axes : List Int64) : Except TensorError Tensor := do
  let dims ← liftShape (tensor.dims.unsqueeze axes)
  return { tensor with shape := some dims, spare := 0 }

/-- An index counted from the front; a negative index counts from the back. -/
def normalizeIndex (size : Int64) (index : Binary64) : Except TensorError Int64 :=
  let given := index.toWord
  let position := if given < 0 then given + size else given
  if position < 0 ∨ size ≤ position then .error (.indexOutOfRange given size) else .ok position

/-- The shape of the slices taken at indices along an axis. -/
def takenShape (shape indices : Shape) (axis : Nat) : Shape :=
  shape.take axis ++ indices ++ shape.drop (axis + 1)

/-- A tensor whose data has been filled into reserved room. -/
def ofReserved (dims : Shape) (type : ElementType) (room : Nat) (data : List Binary64) : Tensor :=
  { shape := some dims, type, data, spare := room - data.length }

/-- What slices are cut from: elements, and a number of zeros behind them. -/
structure Strip where
  stored : Array Binary64
  spare : Nat

/-- The strip of a tensor's elements. -/
def strip (tensor : Tensor) : Strip := ⟨tensor.data.toArray, tensor.spare⟩

/-- The elements from one machine position up to another, which may lie in the spare room. -/
def Strip.slice (strip : Strip) (start stop : Int64) : Except TensorError (List Binary64) :=
  if 0 ≤ start ∧ start ≤ stop ∧ stop.toInt ≤ strip.stored.size + strip.spare then
    let count := (stop - start).toInt.toNat
    let stored := (strip.stored.extract start.toInt.toNat stop.toInt.toNat).toList
    .ok (stored ++ List.replicate (count - stored.length) (Binary64.zero false))
  else .error .trap

/-- The slices of a tensor at the given indices along an axis. Where these have no elements there is
nothing to fill in. -/
def take (tensor indices : Tensor) (axis : Int64) : Except TensorError Tensor := do
  let axis ← liftShape (Shape.axisIndex axis tensor.rank)
  let size := tensor.dims.getD axis 0
  let outer := Shape.elementCount (tensor.dims.take axis)
  let inner := Shape.elementCount (tensor.dims.drop (axis + 1))
  let chosen ← indices.data.mapM (normalizeIndex size)
  let room ← reserve 8 (outer * Int64.ofNat chosen.length * inner)
  let strip := tensor.strip
  let blocks := if chosen.isEmpty ∨ inner = 0 then 0 else outer.toInt.toNat
  let slices ← tabulate blocks fun block => chosen.mapM fun index =>
    let start := (block * size + index) * inner
    strip.slice start (start + inner)
  let dims := takenShape tensor.dims indices.dims axis
  return ofReserved dims tensor.type room slices.flatten.flatten

/-- Tensors joined along an axis; the element type is that of the first. Where the tensors have no
elements behind the axis there is nothing to fill in. -/
def concat (tensors : List Tensor) (axis : Int64) : Except TensorError Tensor := do
  let dims ← liftShape (Shape.concat (tensors.map Tensor.dims) axis)
  let axis ← liftShape (Shape.axisIndex axis dims.length)
  let room ← reserve 8 dims.elementCount
  let outer := Shape.elementCount (dims.take axis)
  let parts := tensors.map fun tensor =>
    (tensor.strip, Shape.elementCount (tensor.dims.drop axis))
  let blocks := if parts.all (·.2 = 0) then 0 else outer.toInt.toNat
  let slices ← tabulate blocks fun block => parts.mapM fun (strip, chunk) =>
    strip.slice (block * chunk) ((block + 1) * chunk)
  let type := (tensors.head?.map Tensor.type).getD .float32
  return ofReserved dims type room slices.flatten.flatten

/-- The strides of a shape aligned to a wider one, zero where a dimension is stretched. -/
def stretchedStrides (shape result : Shape) : List Int64 :=
  let own := (shape.zip shape.strides).map fun entry => if entry.1 = 1 then 0 else entry.2
  List.replicate (result.length - shape.length) 0 ++ own

/-- The position that strides give to the multi-index of a flat position. -/
def stretchedPosition (flat : Int64) : List (Int64 × Int64) → Int64
  | [] => 0
  | (stride, own) :: rest => flat / stride * own + stretchedPosition (flat % stride) rest

/-- Apply a binary operation element by element, stretching both operands to the result shape. -/
def zipBroadcast (op : Binary64 → Binary64 → Binary64) (result : Shape) (left right : Tensor) :
    Except TensorError Tensor := do
  let count ← reserve 8 result.elementCount
  let strides := result.strides
  let leftStrides := strides.zip (stretchedStrides left.dims result)
  let rightStrides := strides.zip (stretchedStrides right.dims result)
  let xs := left.data.toArray
  let ys := right.data.toArray
  let data ← tabulate count fun flat => do
    let x ← elementAt xs (stretchedPosition flat leftStrides)
    let y ← elementAt ys (stretchedPosition flat rightStrides)
    return op x y
  return { shape := some result, type := left.type, data }

end Tensor

end StaticNet
