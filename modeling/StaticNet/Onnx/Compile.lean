import StaticNet.Compiler
import StaticNet.Onnx.Conversion

/-! # Compiling model files

A model file is read, converted to a graph description and compiled.
-/

namespace StaticNet.Onnx

/-- Why a model file gives no network. -/
inductive ModelError where
  | parse (cause : ParseError)
  | convert (cause : ConversionError)
  | compile (cause : CompileError)
deriving DecidableEq

/-- The wording of a model error. -/
def ModelError.message : ModelError → String
  | .parse cause => cause.message
  | .convert cause => "convert model: " ++ cause.message
  | .compile cause => cause.message

/-- Compile the bytes of a model file. -/
def compile (compiler : Compiler) (bytes : Bytes) : ExceptT ModelError Logged Compilation := do
  let model ← (parse bytes).mapError ModelError.parse
  let spec ← (graphSpec model).mapError ModelError.convert
  ExceptT.adapt ModelError.compile (compiler.compile spec)

end StaticNet.Onnx
