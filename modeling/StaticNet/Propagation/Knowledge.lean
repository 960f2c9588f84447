import StaticNet.Tensor.Basic

/-! # Knowledge about tensors

What propagation knows about a tensor: nothing, its shape, or its exact value. A value may leave its
shape unstated and then counts as a scalar; when it is forgotten, what remains is that the tensor is
known.
-/

namespace StaticNet

/-- What is known about a tensor. -/
inductive Knowledge where
  | unknown
  | unstated
  | shape (dims : Shape)
  | exact (value : Tensor)
deriving DecidableEq

namespace Knowledge

instance : Inhabited Knowledge := ⟨.unknown⟩

/-- The shape as far as it is stated. -/
def shape? : Knowledge → Option Shape
  | .unknown | .unstated => none
  | .shape dims => some dims
  | .exact value => value.shape

/-- Whether anything is known. -/
def isKnown : Knowledge → Bool
  | .unknown => false
  | _ => true

/-- The dimensions of what is known; without a stated shape there are none. -/
def dims? (knowledge : Knowledge) : Option Shape :=
  if knowledge.isKnown then some (knowledge.shape?.getD []) else none

/-- The known value. -/
def value? : Knowledge → Option Tensor
  | .exact value => some value
  | _ => none

/-- Whether the value is known. -/
def isExact (knowledge : Knowledge) : Bool := knowledge.value?.isSome

/-- Knowledge of a shape that may be unknown. -/
def ofShape? : Option Shape → Knowledge
  | some dims => .shape dims
  | none => .unknown

/-- Forget the value and keep the shape. -/
def forgetValue : Knowledge → Knowledge
  | .exact value => value.shape.elim .unstated .shape
  | other => other

/-- Whether two states of knowledge say the same; values are compared as numbers. -/
def agrees (left right : Knowledge) : Bool :=
  left.dims? = right.dims? && Tensor.agreesOption left.value? right.value?

end Knowledge

end StaticNet
