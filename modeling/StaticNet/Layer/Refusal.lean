import StaticNet.Layer.Basic
import StaticNet.Storage.Pool

/-! # Refusals

A variant that recognises a node may refuse it, because the layer library cannot run it. A
computation that builds a layer assigns buffers, reports what it notices, and may refuse.
-/

namespace StaticNet

/-- Why a variant refuses a node. -/
inductive Refusal where
  | lowBound (tensor : String)
  | highBound (tensor : String)
  | noSize
  | inputCount (count : Nat)
  | autoPadding (mode : String)
  | dilation (dilations : List Int64)
  | noKernel
  | kernelNotPlanar (kernel : List Int64)
  | kernelNotLinear (kernel : List Int64)
  | evenKernel (kernel : List Int64)
  | padCount (pads : List Int64)
  | asymmetricPads (pads : List Int64)
  | windowLengths (strides pads kernel : List Int64)
  | concatAxis (axis : Int64)
  | concatShape (tensor : String) (input output : Shape)
  | elementCount (input output : Shape)
  | padMode (mode : String)
  | padsNotConstant
  | padValueNotConstant
  | padLength (pads : List Int64) (input : Shape)
  | padsNotSpatial (pads : List Int64)
  | padRank (rank : Nat)
deriving DecidableEq

/-- The wording of a refusal. -/
def Refusal.message : Refusal → String
  | .lowBound tensor => "min bound " ++ Text.quote tensor ++ " is not constant"
  | .highBound tensor => "max bound " ++ Text.quote tensor ++ " is not constant"
  | .noSize => "missing size attribute"
  | .inputCount count => "expected 5 inputs, got " ++ toString count
  | .autoPadding mode => "auto padding " ++ Text.quote mode
  | .dilation dilations => "dilation " ++ Text.words dilations
  | .noKernel => "missing kernel input"
  | .kernelNotPlanar kernel => "kernel_shape " ++ Text.words kernel ++ " is not two-dimensional"
  | .kernelNotLinear kernel => "kernel_shape " ++ Text.words kernel ++ " is not one-dimensional"
  | .evenKernel kernel => "even kernel size " ++ Text.words kernel
  | .padCount pads => "pads " ++ Text.words pads
  | .asymmetricPads pads => "asymmetric padding " ++ Text.words pads
  | .windowLengths strides pads kernel =>
      "strides " ++ Text.words strides ++ " and pads " ++ Text.words pads ++
        " do not match kernel " ++ Text.words kernel
  | .concatAxis axis => "concatenation along axis " ++ Text.word axis
  | .concatShape tensor input output =>
      "input " ++ tensor ++ input.text ++ " does not match output " ++ output.text
  | .elementCount input output => "cannot reshape " ++ input.text ++ " to " ++ output.text
  | .padMode mode => "mode " ++ Text.quote mode
  | .padsNotConstant => "pads are not constant"
  | .padValueNotConstant => "pad value is not constant"
  | .padLength pads input => "pads " ++ Text.words pads ++ " do not match input " ++ input.text
  | .padsNotSpatial pads =>
      "padding only the spatial axes is supported, pads " ++ Text.words pads
  | .padRank rank => "input rank " ++ toString rank

/-- A computation that builds a layer and may refuse to. -/
abbrev Building := ExceptT Refusal Allocating

namespace Building

/-- The name of the buffer of a tensor. -/
def bufferName (graph : Graph) (tensor : String) : Building String := do
  return (← BufferPool.buffer graph tensor).name

/-- The name of the buffer of an optional input; an absent input has none. -/
def optionalName (graph : Graph) (tensor : String) : Building String :=
  if tensor = "" then return "" else bufferName graph tensor

/-- Report what the variant of a node notices. -/
def note (node : Node) (variant : String) (level : Level) (message : String)
    (fields : List (String × String)) : Building Unit :=
  report ⟨level, message,
    [("node", node.name), ("op", node.op), ("variant", variant)] ++ fields⟩

/-- An object that reads the first input of a node and writes its first output. The rest of the
object is built after its own buffers are assigned. -/
def object (graph : Graph) (node : Node) (kind : Building ObjectKind) : Building Layer := do
  let identifier ← BufferPool.layerName node
  let input ← bufferName graph (node.input 0)
  let output ← bufferName graph (node.output 0)
  return ⟨node.name, identifier, output, .object input (← kind)⟩

/-- A statement that writes the first output of a node. -/
def statement (graph : Graph) (node : Node) (kind : Building StatementKind) : Building Layer := do
  let identifier ← BufferPool.layerName node
  let output ← bufferName graph (node.output 0)
  return ⟨node.name, identifier, output, .statement (← kind)⟩

end Building

namespace Node

/-- Whether a node asks for automatic padding. -/
def padsAutomatically (node : Node) : Bool :=
  let mode := node.attributes.text "auto_pad" "NOTSET"
  mode ≠ "NOTSET" && mode ≠ ""

/-- The first element of a constant input. -/
def constantNumber? (node : Node) (index : Nat) : Option Binary32 :=
  (node.constants.get? (node.input index)).bind fun value => value.singles.head?

end Node

/-- Padding, left out when it is zero everywhere. -/
def effectivePadding (pads : List Int64) : List Int64 := if pads.all (· = 0) then [] else pads

end StaticNet
