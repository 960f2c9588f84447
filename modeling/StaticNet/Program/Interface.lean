import StaticNet.Graph.Basic
import StaticNet.Text.Quoted

/-! # The interface of a network

The run function takes one input and one output. Ranks three and four have a batch axis in front,
which must have size one; a matrix is a single channel.
-/

namespace StaticNet

/-- Why the run function cannot take the inputs and outputs of a graph. -/
inductive InterfaceError where
  | inputCount (count : Nat)
  | outputCount (count : Nat)
  | unknownShape (kind tensor : String)
  | batchSize (kind tensor : String) (size : Int64)
  | otherRank (kind tensor : String) (rank : Nat)
deriving DecidableEq

/-- The wording of an interface error. -/
def InterfaceError.message (cause : InterfaceError) : String :=
  let detail := match cause with
    | .inputCount count => toString count ++ " inputs, only one is supported"
    | .outputCount count => toString count ++ " outputs, only one is supported"
    | .unknownShape kind tensor => kind ++ " " ++ Text.quote tensor ++ " has no known shape"
    | .batchSize kind tensor size =>
        kind ++ " " ++ Text.quote tensor ++ " has batch size " ++ Text.word size
    | .otherRank kind tensor rank =>
        kind ++ " " ++ Text.quote tensor ++ " has rank " ++ toString rank
  detail ++ ": unsupported graph"

/-- The shapes of the input and the output of a network. -/
structure Interface where
  input : Shape
  output : Shape
deriving DecidableEq

namespace Interface

/-- The shape of an input or output, if the run function can take it. -/
def edgeShape (graph : Graph) (kind tensor : String) : Except InterfaceError Shape :=
  match graph.knownShape? tensor with
  | none => .error (.unknownShape kind tensor)
  | some [rows, columns] => .ok [rows, columns]
  | some (batch :: rest) =>
      if rest.length = 2 ∨ rest.length = 3 then
        if batch = 1 then .ok (batch :: rest) else .error (.batchSize kind tensor batch)
      else .error (.otherRank kind tensor (rest.length + 1))
  | some [] => .error (.otherRank kind tensor 0)

/-- The interface of a graph. -/
def ofGraph (graph : Graph) : Except InterfaceError Interface :=
  match graph.inputs, graph.outputs with
  | [input], [output] => do
      let inputShape ← edgeShape graph "input" input.id
      let outputShape ← edgeShape graph "output" output.id
      return ⟨inputShape, outputShape⟩
  | [_], outputs => .error (.outputCount outputs.length)
  | inputs, _ => .error (.inputCount inputs.length)

end Interface

end StaticNet
