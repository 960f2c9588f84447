import StaticNet.Layer.Window
import StaticNet.Propagation.Window
import StaticNet.Proofs.Outcome

/-! # The window of inference

Shape inference reads a sliding window from the attributes of a node. The kernel of a convolution
may come from the shape of its weight instead. The window then gives the sizes of the spatial axes
of the outputs.
-/

namespace StaticNet

namespace SlidingWindow

variable {node : Node} {kernel : List Int64} {window : SlidingWindow}

/-- A window has the attributes of a node, with one step and two amounts of padding for each axis of
its kernel. -/
structure OfNode (node : Node) (window : SlidingWindow) : Prop where
  strides : window.strides = node.intsOr "strides" (List.replicate window.kernel.length 1)
  pads : window.pads = node.intsOr "pads" (List.replicate (2 * window.kernel.length) 0)
  dilations : window.dilations = node.intsOr "dilations" (List.replicate window.kernel.length 1)
  roundUp : window.roundUp = decide (node.attributes.int "ceil_mode" 0 ≠ 0)
  stepped : window.strides.length = window.kernel.length
  padded : window.pads.length = 2 * window.kernel.length

/-- A window that is read has the given kernel and the attributes of the node. -/
theorem read_spec (done : read node kernel = .ok window) :
    window.kernel = kernel ∧ OfNode node window := by
  simp only [read] at done
  split at done
  · cases done
  · split at done
    · cases done
    · next matching =>
      cases done
      simp only [not_or, Classical.not_not] at matching
      exact ⟨rfl, rfl, rfl, rfl, rfl, matching.1, matching.2.2⟩

/-- A window is moved over as many axes as its kernel has. -/
theorem length_of_outputSizes {dims sizes : List Int64}
    (moved : window.outputSizes dims = .ok sizes) : dims.length = window.kernel.length := by
  rw [outputSizes] at moved
  split at moved
  · cases moved
  · next same => exact Classical.not_not.mp same

end SlidingWindow

/-- The kernel that inference reads for a node. -/
def Node.inferredKernel (node : Node) (graph : Graph) : List Int64 :=
  if node.op = "Conv" then
    Transfer.convolutionKernel node ((graph.knownShape? (node.input 1)).getD [])
  else node.attributes.ints "kernel_shape"

/-- What inference is told about the inputs of a node when it knows the shapes of the graph. -/
def Node.shapesKnown (node : Node) (graph : Graph) : List Knowledge :=
  node.inputs.map fun tensor => .ofShape? (graph.knownShape? tensor)

/-- The outputs of a node were inferred with a window: their first two dimensions aside, they have
the sizes that the window leaves of the spatial axes of the first input. -/
structure SlidingWindow.Infers (graph : Graph) (node : Node) (outputs : List Knowledge)
    (window : SlidingWindow) : Prop where
  read : SlidingWindow.read node (node.inferredKernel graph) = .ok window
  sizes : ∃ input sizes, graph.knownShape? (node.input 0) = some input ∧
    window.outputSizes (input.drop 2) = .ok sizes ∧
    ∀ output ∈ outputs, ∃ batch channels, output = .shape (batch :: channels :: sizes)

/-! ## Transfers -/

namespace Transfer

variable {graph : Graph} {node : Node} {outputs : List Knowledge}

/-- An input of which the dimensions are known has a known shape in the graph. -/
theorem knownShape?_of_knownAt {index : Nat} {knowledge : Knowledge} {dims : Shape}
    (known : knownAt (node.shapesKnown graph) index = .ok (knowledge, dims)) :
    graph.knownShape? (node.input index) = some dims := by
  rw [knownAt, Node.shapesKnown, List.getD_eq_getElem?_getD, List.getElem?_map] at known
  rw [Node.input, List.getD_eq_getElem?_getD]
  cases listed : node.inputs[index]? with
  | none =>
    rw [listed] at known
    cases known
  | some tensor =>
    rw [listed] at known
    rw [Option.getD_some]
    cases shape : graph.knownShape? tensor with
    | none => simp [shape, Knowledge.ofShape?, Knowledge.dims?, Knowledge.isKnown] at known
    | some shape' =>
      simp [shape, Knowledge.ofShape?, Knowledge.dims?, Knowledge.isKnown, Knowledge.shape?] at known
      rw [known.2]

/-- Pooling infers its outputs with the window of its node. -/
theorem pool_spec (pooling : node.op ≠ "Conv")
    (inferred : pool node (node.shapesKnown graph) = .ok outputs) :
    ∃ window, SlidingWindow.Infers graph node outputs window := by
  obtain ⟨⟨_, input⟩, known, rest⟩ := Outcome.bind_eq_ok_iff.mp inferred
  obtain ⟨ranked, rest⟩ := Outcome.of_refusal rest
  obtain ⟨window, read, rest⟩ := Outcome.bind_eq_ok_iff.mp rest
  obtain ⟨sizes, moved, rest⟩ := Outcome.bind_eq_ok_iff.mp rest
  cases rest
  refine ⟨window, ?_, input, sizes, knownShape?_of_knownAt known, moved, ?_⟩
  · rwa [Node.inferredKernel, if_neg pooling]
  · match input, ranked with
    | batch :: channels :: _, _ => simp

/-- Convolution infers its output with the window of its node. Its weight has a known shape, of the
rank of the input. -/
theorem convolution_spec (convolving : node.op = "Conv")
    (inferred : convolution node (node.shapesKnown graph) = .ok outputs) :
    ∃ window input weight, SlidingWindow.Infers graph node outputs window ∧
      graph.knownShape? (node.input 0) = some input ∧
      graph.knownShape? (node.input 1) = some weight ∧ weight.length = input.length := by
  obtain ⟨⟨_, input⟩, known, rest⟩ := Outcome.bind_eq_ok_iff.mp inferred
  obtain ⟨⟨_, weight⟩, weighed, rest⟩ := Outcome.bind_eq_ok_iff.mp rest
  obtain ⟨ranked, rest⟩ := Outcome.of_refusal rest
  obtain ⟨window, read, rest⟩ := Outcome.bind_eq_ok_iff.mp rest
  obtain ⟨sizes, moved, rest⟩ := Outcome.bind_eq_ok_iff.mp rest
  cases rest
  have shape := knownShape?_of_knownAt known
  have weightShape := knownShape?_of_knownAt weighed
  simp only [not_or, Nat.not_lt, Classical.not_not] at ranked
  refine ⟨window, input, weight, ⟨?_, input, sizes, shape, moved, ?_⟩, shape, weightShape,
    ranked.2⟩
  · rwa [Node.inferredKernel, if_pos convolving, weightShape]
  · match input, weight, ranked with
    | batch :: _, filters :: _, _ => simp

end Transfer

end StaticNet
