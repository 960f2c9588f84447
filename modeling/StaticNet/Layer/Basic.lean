import StaticNet.Graph.Basic
import StaticNet.Program.Phase
import StaticNet.Template.Renderer

/-! # Layers

A layer is the code of one node. Most nodes become an object that is declared, constructed, run
and deleted with the network; some become a single statement of the run function. The parameters
of a layer are what its templates read.
-/

namespace StaticNet

/-- The functions that are applied to every element. -/
inductive Activation where
  | relu
  | sigmoid
  | tanh
  | softmax
deriving DecidableEq

/-- The name of an activation in the generated code. -/
def Activation.name : Activation → String
  | .relu => "ReLU"
  | .sigmoid => "Sigmoid"
  | .tanh => "TanH"
  | .softmax => "Softmax"

/-- The number of spatial axes over which a window moves. -/
inductive SpatialAxes where
  | one
  | two
deriving DecidableEq

/-- The number of axes. -/
def SpatialAxes.count : SpatialAxes → Nat
  | .one => 1
  | .two => 2

/-- The number of axes as the names of variants end. -/
def SpatialAxes.suffix : SpatialAxes → String
  | .one => "1D"
  | .two => "2D"

/-- The window of a layer. Padding that is zero everywhere is left out. -/
structure LayerWindow where
  kernel : List Int64
  stride : List Int64
  padding : List Int64
deriving DecidableEq

/-- What a layer object computes. Weights are given by the names of their buffers; a missing bias
has the empty name. -/
inductive ObjectKind where
  | activation (function : Activation)
  | clip (low high : Binary32)
  | responseNormalization (alpha beta : Binary32) (size : Int64)
  | batchNormalization (gammas betas means variances : String) (epsilon : Binary32)
  | convolution (axes : SpatialAxes) (kernel bias : String) (groups : Int64)
      (padding stride : List Int64)
  | fullyConnected (kernel bias : String)
  | maxPool (axes : SpatialAxes) (window : LayerWindow)
  | averagePool (axes : SpatialAxes) (window : LayerWindow) (countsPadding : Int64)
  | globalAveragePool
  | globalMaxPool
deriving DecidableEq

/-- What a statement computes, with the names of the buffers that it reads. -/
inductive StatementKind where
  | concat (inputs : List String) (axis : Int64)
  | copy (op input : String)
  | add (left right : String) (leftShape rightShape : Shape)
  | pad (input : String) (padding : List Int64) (value : Binary32)
deriving DecidableEq

/-- What a layer does: run an object on an input buffer, or execute a statement. -/
inductive Work where
  | object (input : String) (kind : ObjectKind)
  | statement (kind : StatementKind)
deriving DecidableEq

/-- The code of a node: its name, the identifier of its object, the buffer that it writes, and what
it does. -/
structure Layer where
  node : String
  identifier : String
  output : String
  work : Work
deriving DecidableEq

namespace ObjectKind

/-- The variant that makes such objects. -/
def variant : ObjectKind → String
  | .activation function => function.name
  | .clip _ _ => "Clip"
  | .responseNormalization _ _ _ => "LRN"
  | .batchNormalization _ _ _ _ _ => "BatchNormalization"
  | .convolution axes _ _ _ _ _ => "Conv" ++ axes.suffix
  | .fullyConnected _ _ => "FullyConnected"
  | .maxPool axes _ => "MaxPool" ++ axes.suffix
  | .averagePool axes _ _ => "AveragePool" ++ axes.suffix
  | .globalAveragePool => "GlobalAveragePool"
  | .globalMaxPool => "GlobalMaxPool"

/-- The class of the object in the generated code. -/
def className : ObjectKind → String
  | .activation function => function.name
  | .clip _ _ => "Clip"
  | .responseNormalization _ _ _ => "LRN"
  | .batchNormalization _ _ _ _ _ => "BatchNormalization"
  | .convolution _ _ _ _ _ _ => "Convolution"
  | .fullyConnected _ _ => "FullyConnected"
  | .maxPool _ _ => "MaxPooling"
  | .averagePool _ _ _ => "AveragePooling"
  | .globalAveragePool => "GlobalAveragePooling"
  | .globalMaxPool => "GlobalMaxPooling"

/-- The template that constructs the object. -/
def allocationTemplate : ObjectKind → String
  | .activation _ => "layers/activation_alloc"
  | .clip _ _ => "layers/clip_alloc"
  | .responseNormalization _ _ _ => "layers/lrn_alloc"
  | .batchNormalization _ _ _ _ _ => "layers/batchnorm_alloc"
  | .convolution .one _ _ _ _ _ => "layers/conv1d_alloc"
  | .convolution .two _ _ _ _ _ => "layers/conv2d_alloc"
  | .fullyConnected _ _ => "layers/fc_alloc"
  | .maxPool _ _ => "layers/max_pool_alloc"
  | .averagePool _ _ _ => "layers/avg_pool_alloc"
  | .globalAveragePool => "layers/global_pool_alloc"
  | .globalMaxPool => "layers/global_pool_alloc"

end ObjectKind

/-- A list parameter; an empty list counts as missing. -/
def Template.Value.ofWords (ns : List Int64) : Template.Value :=
  if ns.isEmpty then .absent else .words ns

open Template (Value Parameters)

/-- The parameters of a window. -/
def LayerWindow.parameters (window : LayerWindow) : List (String × Value) :=
  [ ("kernel_shape", .ofWords window.kernel),
    ("stride", .ofWords window.stride),
    ("padding", .ofWords window.padding) ]

/-- The parameters that only some objects have. -/
def ObjectKind.parameters : ObjectKind → List (String × Value)
  | .activation function => [("op", .text function.name)]
  | .clip low high => [("min", .single low), ("max", .single high)]
  | .responseNormalization alpha beta size =>
      [("alpha", .single alpha), ("beta", .single beta), ("size", .int size)]
  | .batchNormalization gammas betas means variances epsilon =>
      [ ("gammas", .text gammas), ("betas", .text betas), ("means", .text means),
        ("variances", .text variances), ("epsilon", .single epsilon) ]
  | .convolution _ kernel bias groups padding stride =>
      [ ("kernel", .text kernel), ("bias", .text bias), ("groups", .int groups),
        ("padding", .ofWords padding), ("stride", .ofWords stride) ]
  | .fullyConnected kernel bias => [("kernel", .text kernel), ("bias", .text bias)]
  | .maxPool _ window => window.parameters
  | .averagePool _ window countsPadding =>
      window.parameters ++ [("count_include_pad", .int countsPadding)]
  | .globalAveragePool => [("op", .text "GlobalAveragePool")]
  | .globalMaxPool => [("op", .text "GlobalMaxPool")]

namespace StatementKind

/-- The variant that makes such statements. -/
def variant : StatementKind → String
  | .concat _ _ => "Concat"
  | .copy op _ => op
  | .add _ _ _ _ => "Add"
  | .pad _ _ _ => "Pad"

/-- The template of the statement. -/
def template : StatementKind → String
  | .concat _ _ => "layers/concat_exec"
  | .copy _ _ => "layers/reshape_exec"
  | .add _ _ _ _ => "layers/add_exec"
  | .pad _ _ _ => "layers/pad_exec"

/-- The parameters that only some statements have. -/
def parameters : StatementKind → List (String × Value)
  | .concat inputs axis => [("inputs", .texts inputs), ("axis", .int axis)]
  | .copy _ input => [("input", .text input)]
  | .add left right leftShape rightShape =>
      [ ("broadcast", .flag (leftShape ≠ rightShape)), ("lhs_shape", .text leftShape.text),
        ("rhs_shape", .text rightShape.text), ("lhs", .text left), ("rhs", .text right) ]
  | .pad input padding value =>
      [("input", .text input), ("padding", .ofWords padding), ("value", .single value)]

end StatementKind

namespace Layer

/-- The variant that makes such layers. -/
def variant (layer : Layer) : String :=
  match layer.work with
  | .object _ kind => kind.variant
  | .statement kind => kind.variant

/-- The parameters of the templates of a layer. -/
def parameters (layer : Layer) : Parameters :=
  let shared : List (String × Value) :=
    [ ("name", .text layer.node), ("identifier", .text layer.identifier),
      ("output", .text layer.output) ]
  match layer.work with
  | .object input kind =>
      Dict.ofList (shared ++ [("class", .text kind.className), ("input", .text input)] ++
        kind.parameters)
  | .statement kind => Dict.ofList (shared ++ kind.parameters)

/-- The template of a layer in a phase. -/
def template (layer : Layer) (phase : Phase) : String :=
  match layer.work, phase with
  | .object _ _, .declaration => "layers/layer_decl"
  | .object _ kind, .allocation => kind.allocationTemplate
  | .object _ _, .execution => "layers/layer_exec"
  | .object _ _, .deletion => "layers/layer_delete"
  | .statement kind, .execution => kind.template
  | _, _ => "empty"

end Layer

end StaticNet
