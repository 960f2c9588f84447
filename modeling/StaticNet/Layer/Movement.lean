import StaticNet.Layer.Refusal

/-! # Statements on whole tensors

Concatenation, copying, addition and padding need no layer object.
-/

namespace StaticNet.Building

/-- Whether two shapes have the same rank and agree on every axis but one. -/
def alignedExcept (axis : Nat) (left right : Shape) : Bool :=
  left.length = right.length &&
    (left.zip right).zipIdx.all fun entry => entry.2 = axis || entry.1.1 = entry.1.2

/-- Check an input of a concatenation against its output, as far as the shapes are known. -/
def checkConcatInput (graph : Graph) (output : Option Shape) (tensor : String) : Building Unit :=
  match output, graph.knownShape? tensor with
  | some out, some dims =>
      if alignedExcept 1 dims out then return ()
      else throw (.concatShape tensor dims out)
  | _, _ => return ()

/-- Concatenation along the channel axis. -/
def concat (graph : Graph) (node : Node) : Building (Option Layer) := do
  let output := graph.knownShape? (node.output 0)
  let given := node.attributes.int "axis" 1
  let axis := if given < 0 then given + Int64.ofNat (output.getD []).length else given
  if axis ≠ 1 then throw (.concatAxis axis)
  let inputs ← node.inputs.mapM fun tensor => do
    checkConcatInput graph output tensor
    bufferName graph tensor
  statement graph node (return .concat inputs axis)

/-- Copying to another shape of the same size. -/
def copy (graph : Graph) (node : Node) : Building (Option Layer) := do
  match graph.knownShape? (node.input 0), graph.knownShape? (node.output 0) with
  | some input, some output =>
      if input.elementCount ≠ output.elementCount then throw (.elementCount input output)
      statement graph node do return .copy node.op (← bufferName graph (node.input 0))
  | _, _ => return none

/-- Addition of two operands. Operands of rank at most two may differ in shape. -/
def add (graph : Graph) (node : Node) : Building (Option Layer) := do
  if node.inputs.length ≠ 2 then return none
  let left := (graph.knownShape? (node.input 0)).getD []
  let right := (graph.knownShape? (node.input 1)).getD []
  if left ≠ right then
    let shapes := [("lhs", left.text), ("rhs", right.text)]
    if 2 < left.length ∨ 2 < right.length then
      note node "Add" .debug "broadcasting add is not supported" shapes
      return none
    note node "Add" .info "operands of rank <= 2 differ in shape, adding element by element" shapes
  statement graph node do
    let leftName ← bufferName graph (node.input 0)
    let rightName ← bufferName graph (node.input 1)
    return .add leftName rightName left right

/-- The padding of the spatial axes; batch and channels must not be padded. A matrix has only
spatial axes. -/
def imagePads (shape : Shape) (pads : List Int64) : Except Refusal (List Int64) :=
  let rank := shape.length
  if pads.length ≠ 2 * rank then .error (.padLength pads shape)
  else if rank = 2 then .ok pads
  else if rank = 3 ∨ rank = 4 then
    let outer := pads.take 2 ++ (pads.drop rank).take 2
    if outer.any (· ≠ 0) then .error (.padsNotSpatial pads)
    else .ok ((pads.take rank).drop 2 ++ pads.drop (rank + 2))
  else .error (.padRank rank)

/-- The padding that a node asks for, by an attribute or a constant input. -/
def requestedPads (node : Node) : Except Refusal (List Int64) :=
  let given := node.attributes.ints "pads"
  if given.isEmpty then
    match node.constants.get? (node.input 1) with
    | some value => .ok value.words
    | none => .error .padsNotConstant
  else .ok given

/-- The value that a node pads with. -/
def padValue (node : Node) : Except Refusal Binary32 :=
  if node.input 2 = "" then .ok (node.attributes.float "value" ⟨0⟩)
  else
    match node.constantNumber? 2 with
    | some value => .ok value
    | none => .error .padValueNotConstant

/-- Padding of the spatial axes by a constant. -/
def pad (graph : Graph) (node : Node) : Building (Option Layer) := do
  let mode := node.attributes.text "mode" "constant"
  if mode ≠ "constant" then throw (.padMode mode)
  let pads ← requestedPads node
  let value ← padValue node
  let padding ← imagePads ((graph.knownShape? (node.input 0)).getD []) pads
  statement graph node do return .pad (← bufferName graph (node.input 0)) padding value

end StaticNet.Building
