import StaticNet.Layer.BufferCode
import StaticNet.Program.Basic
import StaticNet.Program.Interface
import StaticNet.Program.Schedule
import StaticNet.Weights.Encoding

/-! # Generated files

A network consists of a header, a source file, a weights file, a makefile and a program that runs
it on random input.
-/

namespace StaticNet

/-- The files of a network. -/
structure Artifacts where
  header : String
  source : String
  weights : Bytes
  makefile : String
  dummyInput : String

/-- The files that are rendered from templates. -/
inductive RenderedFile where
  | header
  | source
  | makefile
  | dummyInput
deriving DecidableEq

/-- What a rendered file is called in messages. -/
def RenderedFile.label : RenderedFile → String
  | .header => "network header"
  | .source => "network source"
  | .makefile => "makefile"
  | .dummyInput => "dummy input"

/-- Why a file cannot be made. -/
inductive ArtifactError where
  | render (file : RenderedFile) (cause : Template.RenderError)
  | weights (cause : WeightsRankError)
deriving DecidableEq

/-- The wording of an artifact error. -/
def ArtifactError.message : ArtifactError → String
  | .render file cause => file.label ++ ": " ++ cause.message
  | .weights cause => "weights: " ++ cause.encodingMessage

namespace Artifacts

/-- The files by name, in name order. -/
def files (artifacts : Artifacts) : List (String × Bytes) :=
  [ ("Makefile", Text.bytes artifacts.makefile),
    ("dummy_input.cpp", Text.bytes artifacts.dummyInput),
    ("network.cpp", Text.bytes artifacts.source),
    ("network.h", Text.bytes artifacts.header),
    ("network.weights.bin", artifacts.weights) ]

/-- The template call of the header. -/
def headerCall (model : String) (program : Program) : TemplateCall :=
  { template := "program/network_header"
    parameters := Dict.ofList
      [ ("model_name", .text model), ("run_params", .text program.runParameters),
        ("declarations", .text (program.text .declaration)) ] }

/-- The template call of the source file. -/
def sourceCall (program : Program) : TemplateCall :=
  { template := "program/network_source"
    parameters := Dict.ofList
      [ ("num_kernels", .int (Int64.ofNat program.kernelCount)),
        ("num_biases", .int (Int64.ofNat program.biasCount)),
        ("allocations", .text (program.text .allocation)),
        ("run_params", .text program.runParameters),
        ("executions", .text (program.text .execution)),
        ("deletions", .text (program.text .deletion)) ] }

/-- The template call of the makefile. -/
def makefileCall (model : String) : TemplateCall :=
  { template := "program/makefile"
    parameters := Dict.ofList [("model_name", .text (Text.identifier model))] }

/-- The template call of the program that runs the network on random input. -/
def dummyInputCall (interface : Interface) : TemplateCall :=
  { template := "program/dummy_input"
    parameters := Dict.ofList
      [ ("input_dims", .words interface.input), ("output_dims", .words interface.output),
        ("input_elements", .int interface.input.elementCount) ] }

/-- The files of a network, made in a fixed order. -/
def build (model : String) (interface : Interface) (tasks : List Task) (program : Program)
    (renderer : Template.Renderer) : Except ArtifactError Artifacts := do
  let make (file : RenderedFile) (call : TemplateCall) : Except ArtifactError String :=
    (call.render renderer).mapError (.render file)
  let header ← make .header (headerCall model program)
  let source ← make .source (sourceCall program)
  let weights ← (Weights.encode model (tasks.map Task.node)).mapError fun failure =>
    .weights failure.1
  let makefile ← make .makefile (makefileCall model)
  let dummyInput ← make .dummyInput (dummyInputCall interface)
  return { header, source, weights, makefile, dummyInput }

end Artifacts

end StaticNet
