import StaticNet.Attribute
import StaticNet.Batch
import StaticNet.Bytes
import StaticNet.CommandLine.Host
import StaticNet.CommandLine.Options
import StaticNet.CommandLine.Run
import StaticNet.Compiler
import StaticNet.Dict
import StaticNet.Graph.Basic
import StaticNet.Graph.Build
import StaticNet.Graph.Edit
import StaticNet.Graph.Index
import StaticNet.Journal
import StaticNet.Layer.Basic
import StaticNet.Layer.BufferCode
import StaticNet.Layer.Elementwise
import StaticNet.Layer.Movement
import StaticNet.Layer.Refusal
import StaticNet.Layer.Selection
import StaticNet.Layer.Window
import StaticNet.Main
import StaticNet.Number.Binary
import StaticNet.Number.Decimal
import StaticNet.Number.Format
import StaticNet.Number.Hexadecimal
import StaticNet.Number.Numeral
import StaticNet.Onnx.Compile
import StaticNet.Onnx.Conversion
import StaticNet.Onnx.Order
import StaticNet.Onnx.Reader
import StaticNet.Onnx.Record
import StaticNet.Onnx.Summary
import StaticNet.Program.Artifacts
import StaticNet.Program.Basic
import StaticNet.Program.Emission
import StaticNet.Program.Interface
import StaticNet.Program.Phase
import StaticNet.Program.Schedule
import StaticNet.Propagation.Arithmetic
import StaticNet.Propagation.Fixpoint
import StaticNet.Propagation.Knowledge
import StaticNet.Propagation.Layout
import StaticNet.Propagation.Transfer
import StaticNet.Propagation.Window
import StaticNet.Settings.Basic
import StaticNet.Settings.Reader
import StaticNet.Shape
import StaticNet.Simplification.Bypass
import StaticNet.Simplification.Fold
import StaticNet.Simplification.ShapeMerge
import StaticNet.Storage.Buffer
import StaticNet.Storage.LiveRange
import StaticNet.Storage.Plan
import StaticNet.Storage.Pool
import StaticNet.Template.Basic
import StaticNet.Template.Library
import StaticNet.Template.Renderer
import StaticNet.Template.Script.Basic
import StaticNet.Template.Script.Evaluation
import StaticNet.Template.Script.Format
import StaticNet.Template.Script.Function
import StaticNet.Template.Script.Item
import StaticNet.Template.Script.Literal
import StaticNet.Template.Script.Parser
import StaticNet.Template.Script.Token
import StaticNet.Tensor.Basic
import StaticNet.Tensor.ElementType
import StaticNet.Text.Base64
import StaticNet.Text.Escape
import StaticNet.Text.Grid
import StaticNet.Text.Identifier
import StaticNet.Text.Letter
import StaticNet.Text.Lists
import StaticNet.Text.Path
import StaticNet.Text.Printable
import StaticNet.Text.Quoted
import StaticNet.Text.Space
import StaticNet.Text.Utf8
import StaticNet.Text.Width
import StaticNet.Weights.Decoding
import StaticNet.Weights.Encoding
import StaticNet.Weights.Layout
import StaticNet.Wire.Field
import StaticNet.Wire.Varint
import StaticNet.Yaml.Encoding
import StaticNet.Yaml.Fault
import StaticNet.Yaml.Node
import StaticNet.Yaml.Node.Parser
import StaticNet.Yaml.Resolve
import StaticNet.Yaml.Scalar.Block
import StaticNet.Yaml.Scalar.Plain
import StaticNet.Yaml.Scalar.Quoted
import StaticNet.Yaml.Source
import StaticNet.Yaml.Token
import StaticNet.Yaml.Token.Comment
import StaticNet.Yaml.Token.Lexer
import StaticNet.Yaml.Token.Property
import StaticNet.Proofs.Dict
import StaticNet.Proofs.Graph.Attachment
import StaticNet.Proofs.Layer.References
import StaticNet.Proofs.Layer.Selection
import StaticNet.Proofs.Program.Availability
import StaticNet.Proofs.Program.Bindings
import StaticNet.Proofs.Propagation.Absent
import StaticNet.Proofs.Simplification.Meaning
import StaticNet.Proofs.Simplification.Preservation
import StaticNet.Proofs.Weights.RoundTrip
import StaticNet.Proofs.Graph.Listing
import StaticNet.Proofs.Graph.Exact
import StaticNet.Proofs.Graph.Cascade
import StaticNet.Proofs.Graph.Editing
import StaticNet.Proofs.Propagation.Agreement
import StaticNet.Proofs.Propagation.Stability
import StaticNet.Proofs.Wire.Grammar
import StaticNet.Proofs.Wire.Scanning
import StaticNet.Proofs.Onnx.Schema
import StaticNet.Proofs.Onnx.Acceptance
import StaticNet.Proofs.Onnx.Serialization
import StaticNet.Proofs.Onnx.Part
import StaticNet.Proofs.Onnx.Payload
import StaticNet.Proofs.Onnx.Frame
import StaticNet.Proofs.Onnx.Decoding
import StaticNet.Proofs.Onnx.Conversion
import StaticNet.Proofs.Simplification.Sources
import StaticNet.Proofs.Simplification.Constants
import StaticNet.Proofs.Program.Order
import StaticNet.Proofs.Program.Outputs
import StaticNet.Proofs.Program.Rendering
import StaticNet.Proofs.Program.Regions
import StaticNet.Proofs.Program.Members
import StaticNet.Proofs.Propagation.Window
import StaticNet.Proofs.Layer.Window
import StaticNet.Proofs.Layer.SameWindow
import StaticNet.Proofs.Propagation.Steadiness
import StaticNet.Proofs.Propagation.Least
import StaticNet.Proofs.Simplification.Knowledge
import StaticNet.Proofs.Simplification.Passes
import StaticNet.Proofs.Simplification.NormalForm
import StaticNet.Proofs.Graph.DeadCone
import StaticNet.Proofs.Propagation.Pass
import StaticNet.Proofs.Propagation.Reordering
import StaticNet.Proofs.Program.Workers
import StaticNet.Proofs.Program.Concurrency
import StaticNet.Proofs.Program.Statement
import StaticNet.Proofs.Program.Bracketing
import StaticNet.Proofs.Storage.Validity
import StaticNet.Proofs.Storage.Placement
import StaticNet.Proofs.Onnx.Exploration
import StaticNet.Proofs.Onnx.Order
import StaticNet.Proofs.Onnx.Unnamed
import StaticNet.Proofs.Shape.Count
import StaticNet.Proofs.Shape.Broadcast
import StaticNet.Proofs.Shape.Reshape
import StaticNet.Proofs.Shape.Position
import StaticNet.Proofs.Shape.Concat
import StaticNet.Proofs.Tensor.Access
import StaticNet.Proofs.Tensor.Broadcast
import StaticNet.Proofs.Tensor.Chunks
import StaticNet.Proofs.Tensor.Concat
import StaticNet.Proofs.Tensor.Gather
import StaticNet.Proofs.Propagation.Forgetting
import StaticNet.Proofs.Tensor.Reshape
import StaticNet.Proofs.Onnx.Constant
import StaticNet.Proofs.Weights.Reading
import StaticNet.Proofs.Program.LiveRange
import StaticNet.Proofs.Propagation.Fallback
import StaticNet.Proofs.Simplification.ShapeMerge
import StaticNet.Proofs.Weights.Reservation
import StaticNet.Proofs.Program.Comment
import StaticNet.Proofs.Shape.Join
import StaticNet.Proofs.Shape.Insertion
import StaticNet.Proofs.Storage.Requests
