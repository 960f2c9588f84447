import StaticNet.Propagation.Transfer

/-! # Sliding windows

Pooling and convolution slide a window over the spatial axes, those after the batch and the
channel axis. The window is read from the attributes of the node.
-/

namespace StaticNet

/-- A sliding window: per spatial axis its extent, step, spacing, and the padding at both ends,
all starts first. -/
structure SlidingWindow where
  kernel : List Int64
  strides : List Int64
  pads : List Int64
  dilations : List Int64
  roundUp : Bool
deriving DecidableEq

namespace SlidingWindow

/-- A list attribute, or copies of a default when it is empty. -/
def listOr (values : List Int64) (count : Nat) (default : Int64) : List Int64 :=
  if values.isEmpty then List.replicate count default else values

/-- Read the window of a node with the given kernel. -/
def read (node : Node) (kernel : List Int64) : Except TransferError SlidingWindow :=
  let axes := kernel.length
  let mode := node.attributes.text "auto_pad" "NOTSET"
  let window : SlidingWindow :=
    { kernel
      strides := listOr (node.attributes.ints "strides") axes 1
      pads := listOr (node.attributes.ints "pads") (2 * axes) 0
      dilations := listOr (node.attributes.ints "dilations") axes 1
      roundUp := node.attributes.int "ceil_mode" 0 ≠ 0 }
  if mode ≠ "NOTSET" ∧ mode ≠ "VALID" then .error (.autoPadding mode)
  else if window.strides.length ≠ axes ∨ window.dilations.length ≠ axes ∨
      window.pads.length ≠ 2 * axes then .error (.windowLengths axes)
  else .ok window

/-- The number of positions of a window that can move by an extent. -/
def stepCount (roundUp : Bool) (extent stride : Int64) : Int64 :=
  let quotient := Binary64.div (.ofInt extent.toInt) (.ofInt stride.toInt)
  Binary64.wordOf (if roundUp then quotient.ceil? else quotient.floor?) + 1

/-- The output size of one spatial axis. -/
def outputSize (window : SlidingWindow) (axes axis : Nat) (size : Int64) :
    Except TransferError Int64 :=
  let kernel := window.kernel.getD axis 0
  let stride := window.strides.getD axis 0
  let span := window.dilations.getD axis 0 * (kernel - 1) + 1
  let extent := size + window.pads.getD axis 0 + window.pads.getD (axis + axes) 0 - span
  if extent < 0 ∨ stride ≤ 0 then .error (.windowTooLarge kernel axis size)
  else .ok (stepCount window.roundUp extent stride)

/-- The output sizes of the spatial axes. -/
def outputSizes (window : SlidingWindow) (sizes : List Int64) :
    Except TransferError (List Int64) :=
  if sizes.length ≠ window.kernel.length then
    .error (.windowRank window.kernel.length sizes.length)
  else sizes.zipIdx.mapM fun entry => window.outputSize sizes.length entry.2 entry.1

end SlidingWindow

namespace Transfer

/-- Pooling keeps the batch and the channels; the second output has the shape of the first. -/
def pool (node : Node) (inputs : List Knowledge) : TransferResult := do
  let (_, input) ← knownAt inputs 0
  if input.length < 3 then throw (.poolRank input.length)
  let window ← SlidingWindow.read node (node.attributes.ints "kernel_shape")
  let sizes ← window.outputSizes (input.drop 2)
  let output := input.take 2 ++ sizes
  return [.shape output, .shape output]

/-- The kernel of a convolution: the attribute, or the spatial axes of the weight. -/
def convolutionKernel (node : Node) (weight : Shape) : List Int64 :=
  let kernel := node.attributes.ints "kernel_shape"
  if kernel.isEmpty then weight.drop 2 else kernel

/-- Convolution keeps the batch and has one channel per filter. -/
def convolution (node : Node) (inputs : List Knowledge) : TransferResult := do
  let (_, input) ← knownAt inputs 0
  let (_, weight) ← knownAt inputs 1
  if input.length < 3 ∨ weight.length ≠ input.length then
    throw (.convolutionRanks input weight)
  let window ← SlidingWindow.read node (convolutionKernel node weight)
  let sizes ← window.outputSizes (input.drop 2)
  return [.shape (input.take 1 ++ weight.take 1 ++ sizes)]

/-- Global pooling shrinks every spatial axis to one. -/
def globalPool (_ : Node) (inputs : List Knowledge) : TransferResult := do
  let (_, input) ← knownAt inputs 0
  if input.length < 3 then throw (.globalPoolRank input.length)
  return [.shape (input.take 2 ++ (input.drop 2).map fun _ => 1)]

end Transfer

end StaticNet
