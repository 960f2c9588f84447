import StaticNet.Layer.Refusal

/-! # Element-wise layers

Activations, clipping and normalisation keep the shape of their input.
-/

namespace StaticNet.Building

/-- An activation. Rectification is limited to ranks two to four. -/
def activation (function : Activation) (graph : Graph) (node : Node) :
    Building (Option Layer) := do
  let rank := ((graph.knownShape? (node.input 0)).getD []).length
  if function = .relu ∧ (rank < 2 ∨ 4 < rank) then
    note node function.name .debug "input rank out of range" [("rank", toString rank)]
    return none
  object graph node (return .activation function)

/-- A bound of a clipping node: a constant input, or else the attribute. -/
def bound (node : Node) (index : Nat) (fallback : Binary32) (refusal : String → Refusal) :
    Building Binary32 :=
  if node.input index = "" then return fallback
  else
    match node.constantNumber? index with
    | some value => return value
    | none => throw (refusal (node.input index))

/-- Clipping to bounds that are infinite when they are missing. -/
def clip (graph : Graph) (node : Node) : Building (Option Layer) := do
  let low ← bound node 1 (node.attributes.float "min" .negInfinity) .lowBound
  let high ← bound node 2 (node.attributes.float "max" .infinity) .highBound
  object graph node (return .clip low high)

/-- Local response normalisation over a given number of channels. -/
def responseNormalization (graph : Graph) (node : Node) : Building (Option Layer) := do
  if !node.attributes.contains "size" then throw .noSize
  let alpha := node.attributes.float "alpha" ⟨0x38d1b717⟩
  let beta := node.attributes.float "beta" ⟨0x3f400000⟩
  object graph node (return .responseNormalization alpha beta (node.attributes.int "size" 0))

/-- Batch normalisation by four weight vectors. -/
def batchNormalization (graph : Graph) (node : Node) : Building (Option Layer) := do
  if node.inputs.length < 5 then throw (.inputCount node.inputs.length)
  object graph node do
    let gammas ← bufferName graph (node.input 1)
    let betas ← bufferName graph (node.input 2)
    let means ← bufferName graph (node.input 3)
    let variances ← bufferName graph (node.input 4)
    return .batchNormalization gammas betas means variances
      (node.attributes.float "epsilon" ⟨0x3727c5ac⟩)

end StaticNet.Building
