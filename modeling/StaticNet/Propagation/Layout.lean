import StaticNet.Propagation.Transfer

/-! # Transfer of layout operators

Operators that rearrange, select, join or pad the elements of a tensor, and those that only pass a
shape on.
-/

namespace StaticNet.Transfer

/-- Operators that keep the shape of their first input, as far as it is stated. -/
def sameShape (_ : Node) (inputs : List Knowledge) : TransferResult := do
  let (input, _) ← knownAt inputs 0
  return [.ofShape? input.shape?]

/-- A data output and an optional mask, both of the shape of the input. -/
def dropout (_ : Node) (inputs : List Knowledge) : TransferResult := do
  let (input, _) ← knownAt inputs 0
  let output := Knowledge.ofShape? input.shape?
  return [output, output]

/-- The value of a constant node, from the first attribute that gives one. -/
def constant (node : Node) (_ : List Knowledge) : TransferResult :=
  let attributes := node.attributes
  match attributes.tensor? "value" with
  | some value => .ok [.exact value]
  | none =>
      if attributes.contains "value_float" then
        let value := Binary64.ofBinary32 (attributes.float "value_float" ⟨0⟩)
        .ok [.exact (.scalar .float32 value)]
      else if attributes.contains "value_floats" then
        let values := attributes.floats "value_floats"
        .ok [.exact (.line .float32 (values.map Binary64.ofBinary32))]
      else if attributes.contains "value_int" then
        let value := Binary64.ofInt (attributes.int "value_int" 0).toInt
        .ok [.exact (.scalar .int64 value)]
      else if attributes.contains "value_ints" then
        .ok [.exact (Tensor.vector (attributes.ints "value_ints"))]
      else .error (.constantWithoutValue node.name)

/-- The axes permuted; without a permutation they are reversed. -/
def transpose (node : Node) (inputs : List Knowledge) : TransferResult := do
  let (_, input) ← knownAt inputs 0
  let given := node.attributes.ints "perm"
  let permutation :=
    if given.isEmpty then (List.range input.length).reverse.map Int64.ofNat else given
  if permutation.length ≠ input.length then
    throw (.permutationLength permutation input.length)
  let output ← permutation.mapM fun axis =>
    if axis < 0 then Except.error (TransferError.permutationEntry permutation)
    else
      match input[axis.toInt.toNat]? with
      | some dim => .ok dim
      | none => .error (.permutationEntry permutation)
  return [.shape output]

/-- A list of words from an attribute or, when that is empty, from the value of the second
input. -/
def attributeOrInput (what name : String) (node : Node) (inputs : List Knowledge) :
    Except TransferError (List Int64) :=
  let values := node.attributes.ints name
  if values.isEmpty then
    match valueOf? inputs 1 with
    | some value => .ok value.words
    | none => .error (.unknownOperand what)
  else .ok values

/-- Insert axes of size one. -/
def unsqueeze (node : Node) (inputs : List Knowledge) : TransferResult := do
  let (input, shape) ← knownAt inputs 0
  let axes ← attributeOrInput "unsqueeze axes" "axes" node inputs
  match input.value? with
  | some value => return [.exact (← liftTensor (value.unsqueeze axes))]
  | none => return [.shape (← liftShape (shape.unsqueeze axes))]

/-- The shape of the input as a value. -/
def shapeVector (_ : Node) (inputs : List Knowledge) : TransferResult := do
  let (_, shape) ← knownAt inputs 0
  return [.exact (Tensor.vector shape)]

/-- Slices at the given indices along an axis. -/
def gather (node : Node) (inputs : List Knowledge) : TransferResult := do
  let (data, shape) ← knownAt inputs 0
  let (indices, indexShape) ← knownAt inputs 1
  let axis := node.attributes.int "axis" 0
  match data.value?, indices.value? with
  | some value, some chosen => return [.exact (← liftTensor (value.take chosen axis))]
  | _, _ => do
      let position ← liftShape (Shape.axisIndex axis shape.length)
      return [.shape (Tensor.takenShape shape indexShape position)]

/-- Inputs joined along an axis. -/
def concat (node : Node) (inputs : List Knowledge) : TransferResult := do
  let axis := node.attributes.int "axis" 0
  let known ← (List.range inputs.length).mapM (knownAt inputs)
  let values := known.filterMap fun entry => entry.1.value?
  if values.length = inputs.length then
    return [.exact (← liftTensor (Tensor.concat values axis))]
  else return [.shape (← liftShape (Shape.concat (known.map Prod.snd) axis))]

/-- The first input under the reshape target given by the value of the second. -/
def reshape (_ : Node) (inputs : List Knowledge) : TransferResult := do
  let (input, shape) ← knownAt inputs 0
  match valueOf? inputs 1 with
  | none => throw (.unknownOperand "reshape target")
  | some target =>
      match input.value? with
      | some value => return [.exact (← liftTensor (value.reshape target.words))]
      | none => return [.shape (← liftShape (shape.reshape target.words))]

/-- The axes before and after a position, each multiplied into one. -/
def flatten (node : Node) (inputs : List Knowledge) : TransferResult := do
  let (_, shape) ← knownAt inputs 0
  let given := node.attributes.int "axis" 1
  let axis := if given < 0 then given + Int64.ofNat shape.length else given
  if axis < 0 ∨ (shape.length : Int) < axis.toInt then throw (.flattenAxis axis shape.length)
  let split := axis.toInt.toNat
  return [.shape [Shape.elementCount (shape.take split), Shape.elementCount (shape.drop split)]]

/-- Every axis grows by the padding at its two ends. -/
def pad (node : Node) (inputs : List Knowledge) : TransferResult := do
  let (_, shape) ← knownAt inputs 0
  let pads ← attributeOrInput "pads" "pads" node inputs
  if pads.length ≠ 2 * shape.length then throw (.padLength pads shape.length)
  let ends := pads.drop shape.length
  return [.shape (shape.zipWith (· + ·) ((pads.take shape.length).zipWith (· + ·) ends))]

end StaticNet.Transfer
