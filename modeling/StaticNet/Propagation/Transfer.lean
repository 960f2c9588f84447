import StaticNet.Graph.Basic
import StaticNet.Propagation.Knowledge
import StaticNet.Text.Quoted

/-! # Transfer functions

A transfer function computes what is known about the outputs of a node from what is known about
its inputs. It fails when it needs to know more or when the operator cannot be applied.
-/

namespace StaticNet

/-- Why a transfer function has no result. -/
inductive TransferError where
  | unknownInput (index : Nat)
  | unknownOperand (what : String)
  | tensor (cause : TensorError)
  | autoPadding (mode : String)
  | windowLengths (axes : Nat)
  | windowRank (kernel axes : Nat)
  | windowTooLarge (kernel : Int64) (axis : Nat) (size : Int64)
  | poolRank (rank : Nat)
  | globalPoolRank (rank : Nat)
  | convolutionRanks (input weight : Shape)
  | productOfScalars (left right : Shape)
  | productSizes (left right : Shape)
  | gemmRanks (left right : Shape)
  | gemmSizes (left right : Shape)
  | permutationLength (permutation : List Int64) (rank : Nat)
  | permutationEntry (permutation : List Int64)
  | flattenAxis (axis : Int64) (rank : Nat)
  | padLength (pads : List Int64) (rank : Nat)
  | constantWithoutValue (name : String)
deriving DecidableEq

namespace TransferError

/-- Whether the failure only means that more must be known first. -/
def isDeferral : TransferError → Bool
  | .unknownInput _ | .unknownOperand _ => true
  | _ => false

/-- The wording of a transfer error. -/
def message : TransferError → String
  | .unknownInput index => "input " ++ toString index ++ ": input state unknown"
  | .unknownOperand what => what ++ ": input state unknown"
  | .tensor cause => cause.message
  | .autoPadding mode => "auto_pad " ++ Text.quote mode ++ " not supported"
  | .windowLengths axes =>
      "window attributes do not match " ++ toString axes ++ " spatial dims"
  | .windowRank kernel axes =>
      "kernel rank " ++ toString kernel ++ " does not match " ++ toString axes ++ " spatial dims"
  | .windowTooLarge kernel axis size =>
      "window " ++ Text.word kernel ++ " does not fit dim " ++ toString axis ++ " of size " ++
        Text.word size
  | .poolRank rank => "pool input rank " ++ toString rank ++ ", need at least 3"
  | .globalPoolRank rank => "global pool input rank " ++ toString rank ++ ", need at least 3"
  | .convolutionRanks input weight =>
      "conv input " ++ input.text ++ " and weight " ++ weight.text ++ " ranks disagree"
  | .productOfScalars left right =>
      "matmul of scalar operands " ++ left.text ++ ", " ++ right.text
  | .productSizes left right => "matmul inner dims differ: " ++ left.text ++ " x " ++ right.text
  | .gemmRanks left right =>
      "gemm needs rank-2 operands, got " ++ left.text ++ " and " ++ right.text
  | .gemmSizes left right => "gemm inner dims differ: " ++ left.text ++ " x " ++ right.text
  | .permutationLength permutation rank =>
      "perm " ++ Text.words permutation ++ " does not match rank " ++ toString rank
  | .permutationEntry permutation => "perm " ++ Text.words permutation ++ " out of range"
  | .flattenAxis axis rank =>
      "flatten axis " ++ Text.word axis ++ " out of range for rank " ++ toString rank
  | .padLength pads rank =>
      "pads " ++ Text.words pads ++ " do not match rank " ++ toString rank
  | .constantWithoutValue name =>
      "constant " ++ Text.quote name ++ " has no supported value attribute"

end TransferError

/-- The result of a transfer function: what is known about the outputs, in order. -/
abbrev TransferResult := Except TransferError (List Knowledge)

/-- A transfer function. One that folds is given the values of its inputs; to any other, inputs
and constants of the graph are known by their shapes only. -/
structure Transfer where
  folds : Bool
  apply : Node → List Knowledge → TransferResult

namespace Transfer

/-- A shape computation as part of a transfer. -/
def liftShape {α : Type} (result : Except ShapeError α) : Except TransferError α :=
  result.mapError fun cause => .tensor (.shape cause)

/-- A tensor computation as part of a transfer. -/
def liftTensor {α : Type} (result : Except TensorError α) : Except TransferError α :=
  result.mapError .tensor

/-- What is known about an input, with its dimensions. -/
def knownAt (inputs : List Knowledge) (index : Nat) : Except TransferError (Knowledge × Shape) :=
  let knowledge := inputs.getD index .unknown
  match knowledge.dims? with
  | some dims => .ok (knowledge, dims)
  | none => .error (.unknownInput index)

/-- The known value of an input. -/
def valueOf? (inputs : List Knowledge) (index : Nat) : Option Tensor :=
  (inputs.getD index .unknown).value?

end Transfer

end StaticNet
