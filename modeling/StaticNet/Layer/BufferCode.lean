import StaticNet.Layer.Basic
import StaticNet.Storage.Buffer

/-! # Code of buffers

The fragments that declare, construct and release the storage of a buffer. Weights are bound to a
position of one of two tables when they are constructed.
-/

namespace StaticNet

/-- A template with its parameters. -/
structure TemplateCall where
  template : String
  parameters : Template.Parameters

/-- The text of a template call. -/
def TemplateCall.render (call : TemplateCall) (renderer : Template.Renderer) :
    Except Template.RenderError String :=
  renderer.render call.template call.parameters

/-- The tables that weights are bound into. -/
inductive BindingTable where
  | kernels
  | biases
deriving DecidableEq

/-- The name of a weight table. -/
def BindingTable.name : BindingTable → String
  | .kernels => "kernels"
  | .biases => "biases"

/-- A weight whose rank no table takes. -/
structure WeightRankError where
  name : String
  rank : Nat
deriving DecidableEq

/-- The wording of a weight rank error. -/
def WeightRankError.message (cause : WeightRankError) : String :=
  "weight " ++ cause.name ++ " has rank " ++ toString cause.rank ++ ": unsupported tensor rank"

namespace Buffer

/-- The table of a weight: vectors are biases, everything else is a kernel. -/
def bindingTable (buffer : Buffer) : BindingTable :=
  if buffer.dims.length = 1 then .biases else .kernels

/-- Construct a weight and bind it to a position of its table. -/
def bindingCall (buffer : Buffer) (position : Int64) : TemplateCall :=
  { template := "memory/kernel_allocation"
    parameters := Dict.ofList
      [ ("name", .text buffer.name), ("dims", .words buffer.dims),
        ("table", .text buffer.bindingTable.name), ("pos", .int position) ] }

/-- The code of a weight, unless no table takes its rank. -/
def bindingCode (buffer : Buffer) (position : Int64) : Except WeightRankError TemplateCall :=
  let rank := buffer.dims.length
  if rank < 1 ∨ 4 < rank then .error ⟨buffer.name, rank⟩ else .ok (buffer.bindingCall position)

/-- Declare the shape of a buffer, and its tensor when the network owns it. -/
def declarationCode (buffer : Buffer) : TemplateCall :=
  { template := "memory/buffer_declaration"
    parameters := Dict.ofList
      [ ("name", .text buffer.name), ("shape", .text buffer.dims.text),
        ("tensor", .flag buffer.isOwned) ] }

/-- Construct the shape of a buffer, and its tensor when the network owns it. -/
def allocationCode (buffer : Buffer) : TemplateCall :=
  { template := "memory/buffer_allocation"
    parameters := Dict.ofList
      [ ("name", .text buffer.name), ("dims", .words buffer.dims),
        ("tensor", .flag buffer.isOwned) ] }

/-- Release what was constructed for a buffer. -/
def cleanupCode (buffer : Buffer) : TemplateCall :=
  { template := "memory/buffer_cleanup"
    parameters := Dict.ofList
      [("name", .text buffer.name), ("tensor", .flag buffer.isOwned)] }

end Buffer

/-- The text of a layer in a phase. -/
def Layer.call (layer : Layer) (phase : Phase) : TemplateCall :=
  ⟨layer.template phase, layer.parameters⟩

end StaticNet
