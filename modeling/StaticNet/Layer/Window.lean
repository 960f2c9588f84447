import StaticNet.Layer.Refusal

/-! # Layers with a window

Convolution and pooling. An image whose last axis has size one is handled as a sequence. Fully
connected layers stand here as well, since they have the weights of a convolution.
-/

namespace StaticNet

namespace Node

/-- A list attribute, or a default when it is empty. -/
def intsOr (node : Node) (name : String) (default : List Int64) : List Int64 :=
  let values := node.attributes.ints name
  if values.isEmpty then default else values

/-- The kernel of a convolution: the attribute, or the first spatial axes of the weight. -/
def layerKernel (node : Node) (graph : Graph) (axes : Nat) : List Int64 :=
  node.intsOr "kernel_shape" ((((graph.knownShape? (node.input 1)).getD []).drop 2).take axes)

end Node

namespace Building

/-- Refuse what no convolution layer supports. -/
def checkConvolution (node : Node) : Building Unit := do
  if node.padsAutomatically then throw (.autoPadding (node.attributes.text "auto_pad" ""))
  let dilations := node.attributes.ints "dilations"
  if dilations.any (· ≠ 1) then throw (.dilation dilations)
  if node.input 1 = "" then throw .noKernel

/-- The weights of a convolution, and the object made of them. -/
def convolutionObject (graph : Graph) (node : Node) (axes : SpatialAxes)
    (padding stride : List Int64) : Building (Option Layer) :=
  object graph node do
    let bias ← optionalName graph (node.input 2)
    let kernel ← bufferName graph (node.input 1)
    return .convolution axes kernel bias (node.attributes.int "group" 1) padding stride

/-- Convolution of images. -/
def convolution2D (graph : Graph) (node : Node) : Building (Option Layer) := do
  match graph.knownShape? (node.input 0) with
  | some [batch, channels, height, width] =>
      if width = 1 then return none
      if height ≠ width then
        note node "Conv2D" .warning "input image is not square"
          [("input", Shape.text [batch, channels, height, width])]
      checkConvolution node
      let kernel := node.layerKernel graph 2
      if kernel.length ≠ 2 then throw (.kernelNotPlanar kernel)
      if kernel.any (· % 2 = 0) then throw (.evenKernel kernel)
      let pads := node.intsOr "pads" [0, 0, 0, 0]
      if pads.length ≠ 4 then throw (.padCount pads)
      convolutionObject graph node .two (effectivePadding pads) (node.intsOr "strides" [1, 1])
  | _ => return none

/-- The spatial rank of a sequence: three axes, or four of which the last has size one. -/
def sequenceAxes? (shape : Shape) : Option Nat :=
  match shape with
  | [_, _, _] => some 1
  | [_, _, _, last] => if last = 1 then some 2 else none
  | _ => none

/-- A kernel over a sequence without its second axis of size one. -/
def flattenKernel (kernel : List Int64) : List Int64 :=
  match kernel with
  | [size, last] => if last = 1 then [size] else kernel
  | other => other

/-- The padding at both ends of the first spatial axis; all starts come first. -/
def firstAxisPads (pads : List Int64) : Int64 × Int64 :=
  (pads.getD 0 0, pads.getD (pads.length / 2) 0)

/-- Convolution of sequences. -/
def convolution1D (graph : Graph) (node : Node) : Building (Option Layer) := do
  match (graph.knownShape? (node.input 0)).bind sequenceAxes? with
  | none => return none
  | some axes =>
      checkConvolution node
      let kernel := flattenKernel (node.layerKernel graph axes)
      if kernel.length ≠ 1 then throw (.kernelNotLinear kernel)
      if kernel.any (· % 2 = 0) then throw (.evenKernel kernel)
      let pads := node.intsOr "pads" (List.replicate (2 * axes) 0)
      if pads.length ≠ 2 * axes then throw (.padCount pads)
      let (first, last) := firstAxisPads pads
      if first ≠ last then throw (.asymmetricPads pads)
      convolutionObject graph node .one (effectivePadding [first, last])
        ((node.intsOr "strides" [1]).take 1)

/-- A fully connected layer: a product with a transposed weight, unscaled. -/
def fullyConnected (graph : Graph) (node : Node) : Building (Option Layer) := do
  let attributes := node.attributes
  if attributes.float "alpha" .one ≠ .one ∨ attributes.float "beta" .one ≠ .one then return none
  if attributes.int "transA" 0 ≠ 0 ∨ attributes.int "transB" 0 ≠ 1 then return none
  if node.input 1 = "" then return none
  let bias ← optionalName graph (node.input 2)
  object graph node do
    let kernel ← bufferName graph (node.input 1)
    return .fullyConnected kernel bias

/-- The window of a pooling node, if it has the given number of axes. -/
def poolingWindow? (node : Node) (axes : SpatialAxes) : Building (Option LayerWindow) := do
  let given := node.attributes.ints "kernel_shape"
  let kernel := match axes with
    | .one => flattenKernel given
    | .two => given
  if kernel.length ≠ axes.count then return none
  if node.padsAutomatically then throw (.autoPadding (node.attributes.text "auto_pad" ""))
  let strides := node.intsOr "strides" (List.replicate given.length 1)
  let pads := node.intsOr "pads" (List.replicate (2 * given.length) 0)
  if strides.length < axes.count ∨ pads.length ≠ 2 * given.length then
    throw (.windowLengths strides pads given)
  let padding := match axes with
    | .one => [(firstAxisPads pads).1, (firstAxisPads pads).2]
    | .two => pads
  return some ⟨kernel, strides.take axes.count, effectivePadding padding⟩

/-- Pooling by the largest element. -/
def maxPool (axes : SpatialAxes) (graph : Graph) (node : Node) : Building (Option Layer) := do
  match ← poolingWindow? node axes with
  | none => return none
  | some window => object graph node (return .maxPool axes window)

/-- Pooling by the mean. A window without padding is always full. -/
def averagePool (axes : SpatialAxes) (graph : Graph) (node : Node) :
    Building (Option Layer) := do
  match ← poolingWindow? node axes with
  | none => return none
  | some window =>
      let countsPadding :=
        if window.padding.isEmpty then 1 else node.attributes.int "count_include_pad" 0
      object graph node (return .averagePool axes window countsPadding)

/-- Pooling of all spatial axes of a sequence or an image. -/
def globalPool (kind : ObjectKind) (graph : Graph) (node : Node) : Building (Option Layer) := do
  let rank := ((graph.knownShape? (node.input 0)).getD []).length
  if rank ≠ 3 ∧ rank ≠ 4 then return none
  object graph node (return kind)

end Building

end StaticNet
