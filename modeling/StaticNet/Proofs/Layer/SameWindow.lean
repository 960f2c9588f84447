import StaticNet.Graph.Build
import StaticNet.Propagation.Fixpoint
import StaticNet.Proofs.Layer.Window
import StaticNet.Proofs.Propagation.Window

/-! # One window for inference and layers

The attributes of a sliding window are read twice: by shape inference, which knows windows of any
number of axes with dilations and either rounding, and by the variants of a layer, which hand a
smaller window to the layer. On the axes of the layer both read the same steps and the same padding.
A layer overlooks how positions are rounded, the dilations of pooling, a declared kernel that is not
that of the weight, and steps and padding along an axis that is left out.
-/

namespace StaticNet

/-! ## Comparing windows -/

/-- The padding of a layer, written out. -/
def LayerWindow.fullPadding (handed : LayerWindow) (axes : SpatialAxes) : List Int64 :=
  if handed.padding.isEmpty then List.replicate (2 * axes.count) 0 else handed.padding

theorem LayerWindow.fullPadding_effectivePadding {axes : SpatialAxes}
    {kernel stride pads : List Int64} (length : pads.length = 2 * axes.count) :
    fullPadding ⟨kernel, stride, effectivePadding pads⟩ axes = pads := by
  rw [fullPadding, effectivePadding]
  split
  · next all =>
    have zeros := List.eq_replicate_of_mem fun pad member =>
      of_decide_eq_true (List.all_eq_true.mp all pad member)
    rw [List.isEmpty_nil, if_pos rfl, ← length, ← zeros]
  · next some =>
    have present : pads.isEmpty = false := by
      rw [List.isEmpty_eq_false_iff]
      rintro rfl
      exact some rfl
    rw [present, if_neg Bool.false_ne_true]

namespace SlidingWindow

/-- The padding at the starts of the axes. -/
def starts (window : SlidingWindow) : List Int64 := window.pads.take window.kernel.length

/-- The padding at the ends of the axes. -/
def ends (window : SlidingWindow) : List Int64 := window.pads.drop window.kernel.length

/-- A layer has just the window of inference, which has no dilations and rounds down. An axis that
the layer leaves out has a kernel and steps of size one and no padding. -/
structure Same (window : SlidingWindow) (axes : SpatialAxes) (handed : LayerWindow) : Prop where
  dense : ∀ dilation ∈ window.dilations, dilation = 1
  roundsDown : window.roundUp = false
  kernel : handed.kernel = window.kernel.take axes.count
  stride : handed.stride = window.strides.take axes.count
  padding : handed.fullPadding axes =
    window.starts.take axes.count ++ window.ends.take axes.count
  flat : ∀ size ∈ window.kernel.drop axes.count, size = 1
  steps : ∀ step ∈ window.strides.drop axes.count, step = 1
  unpadded : ∀ pad ∈ window.starts.drop axes.count ++ window.ends.drop axes.count, pad = 0

/-- On all its axes, a layer with the steps and the padding of inference differs from it in the
kernel, the dilations or the rounding only. -/
theorem same_iff_of_whole {window : SlidingWindow} {axes : SpatialAxes} {handed : LayerWindow}
    (sizes : window.kernel.length = axes.count)
    (steps : window.strides.length = window.kernel.length)
    (pads : window.pads.length = 2 * window.kernel.length)
    (stride : handed.stride = window.strides)
    (padding : handed.padding = effectivePadding window.pads) :
    window.Same axes handed ↔ handed.kernel = window.kernel ∧
      (∀ dilation ∈ window.dilations, dilation = 1) ∧ window.roundUp = false := by
  obtain ⟨kernel, _, _⟩ := handed
  obtain rfl : _ = window.strides := stride
  obtain rfl : _ = effectivePadding window.pads := padding
  rw [sizes] at steps pads
  have starts : window.starts.length = axes.count := by
    rw [SlidingWindow.starts, List.length_take]
    omega
  have ends : window.ends.length = axes.count := by
    rw [SlidingWindow.ends, List.length_drop]
    omega
  have whole : window.kernel.take axes.count = window.kernel :=
    List.take_of_length_le (Nat.le_of_eq sizes)
  constructor
  · exact fun same => ⟨same.kernel.trans whole, same.dense, same.roundsDown⟩
  · rintro ⟨kernel, dense, roundsDown⟩
    refine ⟨dense, roundsDown, kernel.trans whole.symm, ?_, ?_, ?_, ?_, ?_⟩
    · exact (List.take_of_length_le (Nat.le_of_eq steps)).symm
    · rw [LayerWindow.fullPadding_effectivePadding pads,
        List.take_of_length_le (Nat.le_of_eq starts), List.take_of_length_le (Nat.le_of_eq ends)]
      exact (List.take_append_drop ..).symm
    · simp [List.drop_of_length_le (Nat.le_of_eq sizes)]
    · simp [List.drop_of_length_le (Nat.le_of_eq steps)]
    · simp [List.drop_of_length_le (Nat.le_of_eq starts),
        List.drop_of_length_le (Nat.le_of_eq ends)]

/-- A layer that leaves out a second axis with a kernel of size one may differ from inference in the
steps and in the padding along this axis as well. -/
theorem same_iff_of_flat {size step side first left last right : Int64} {dilations : List Int64}
    {roundUp : Bool} {handed : LayerWindow} (stride : handed.stride = [step])
    (padding : handed.padding = effectivePadding [first, last]) :
    Same ⟨[size, 1], [step, side], [first, left, last, right], dilations, roundUp⟩ .one handed ↔
      handed.kernel = [size] ∧ (∀ dilation ∈ dilations, dilation = 1) ∧ roundUp = false ∧
        side = 1 ∧ left = 0 ∧ right = 0 := by
  obtain ⟨kernel, _, _⟩ := handed
  obtain rfl : _ = [step] := stride
  obtain rfl : _ = effectivePadding [first, last] := padding
  constructor
  · intro same
    have steps : side = 1 := by
      simpa [SpatialAxes.count] using same.steps
    have unpadded : left = 0 ∧ right = 0 := by
      simpa [starts, ends, SpatialAxes.count] using same.unpadded
    exact ⟨same.kernel, same.dense, same.roundsDown, steps, unpadded⟩
  · rintro ⟨kernel, dense, roundsDown, rfl, rfl, rfl⟩
    refine ⟨dense, roundsDown, kernel, rfl, ?_, ?_, ?_, ?_⟩
    · exact LayerWindow.fullPadding_effectivePadding rfl
    · simp [SpatialAxes.count]
    · simp [SpatialAxes.count]
    · simp [starts, ends, SpatialAxes.count]

end SlidingWindow

/-! ## What layers overlook -/

/-- What the layer of a node overlooks of the window of the node: that positions are rounded up, the
dilations of pooling, a declared kernel that differs from the weight of a convolution, and steps and
padding of a convolution along a last axis of size one. -/
inductive Node.Overlooks (graph : Graph) (node : Node) (axes : SpatialAxes) : Prop
  | rounding : node.attributes.int "ceil_mode" 0 ≠ 0 → Overlooks graph node axes
  | dilation {dilation : Int64} : node.op ≠ "Conv" →
      dilation ∈ node.attributes.ints "dilations" → dilation ≠ 1 → Overlooks graph node axes
  | kernel {weight : Shape} : node.op = "Conv" →
      graph.knownShape? (node.input 1) = some weight →
      node.attributes.ints "kernel_shape" ≠ [] →
      (weight.drop 2).take axes.count ≠
        (node.attributes.ints "kernel_shape").take axes.count → Overlooks graph node axes
  | step {batch channels size : Int64} : node.op = "Conv" →
      graph.knownShape? (node.input 0) = some [batch, channels, size, 1] →
      (node.attributes.ints "strides").getD 1 1 ≠ 1 → Overlooks graph node axes
  | padding {batch channels size : Int64} : node.op = "Conv" →
      graph.knownShape? (node.input 0) = some [batch, channels, size, 1] →
      ((node.attributes.ints "pads").getD 1 0 ≠ 0 ∨
        (node.attributes.ints "pads").getD 3 0 ≠ 0) → Overlooks graph node axes

namespace Node

variable {graph : Graph} {node : Node} {axes : SpatialAxes}

theorem not_overlooks_iff_of_pool (pooling : node.op ≠ "Conv") :
    ¬ node.Overlooks graph axes ↔
      (∀ dilation ∈ node.attributes.ints "dilations", dilation = 1) ∧
        node.attributes.int "ceil_mode" 0 = 0 := by
  constructor
  · intro attentive
    refine ⟨fun dilation member => ?_, ?_⟩
    · by_contra other
      exact attentive (.dilation pooling member other)
    · by_contra up
      exact attentive (.rounding up)
  · rintro ⟨dense, down⟩ (up | ⟨-, member, other⟩ | ⟨convolving⟩ | ⟨convolving⟩ | ⟨convolving⟩)
    · exact up down
    · exact other (dense _ member)
    all_goals exact pooling convolving

theorem not_overlooks_iff_of_convolution {weight : Shape} (convolving : node.op = "Conv")
    (shape : graph.knownShape? (node.input 1) = some weight) :
    ¬ node.Overlooks graph axes ↔
      node.attributes.int "ceil_mode" 0 = 0 ∧
      (node.attributes.ints "kernel_shape" ≠ [] →
        (weight.drop 2).take axes.count =
          (node.attributes.ints "kernel_shape").take axes.count) ∧
      ∀ batch channels size,
        graph.knownShape? (node.input 0) = some [batch, channels, size, 1] →
        (node.attributes.ints "strides").getD 1 1 = 1 ∧
          (node.attributes.ints "pads").getD 1 0 = 0 ∧
          (node.attributes.ints "pads").getD 3 0 = 0 := by
  constructor
  · intro attentive
    refine ⟨?_, fun declared => ?_, fun batch channels size flat => ⟨?_, ?_, ?_⟩⟩
    · by_contra up
      exact attentive (.rounding up)
    · by_contra other
      exact attentive (.kernel convolving shape declared other)
    · by_contra other
      exact attentive (.step convolving flat other)
    · by_contra other
      exact attentive (.padding convolving flat (.inl other))
    · by_contra other
      exact attentive (.padding convolving flat (.inr other))
  · rintro ⟨down, weighted, aside⟩
      (up | ⟨pooling⟩ | ⟨-, known, declared, other⟩ | ⟨-, flat, other⟩ | ⟨-, flat, other⟩)
    · exact up down
    · exact pooling convolving
    · cases shape.symm.trans known
      exact other (weighted declared)
    · exact other (aside _ _ _ flat).1
    · exact other.elim (· (aside _ _ _ flat).2.1) (· (aside _ _ _ flat).2.2)

/-! ## Comparing attributes -/

/-- Whether all elements are equal to the default does not depend on how often it is repeated. -/
theorem forall_mem_intsOr_replicate (node : Node) (name : String) (count : Nat) (value : Int64) :
    (∀ element ∈ node.intsOr name (List.replicate count value), element = value) ↔
      ∀ element ∈ node.attributes.ints name, element = value := by
  rw [intsOr]
  split
  · next empty =>
    rw [List.isEmpty_iff.mp empty]
    exact ⟨fun _ _ member => (nomatch member), fun _ _ => List.eq_of_mem_replicate⟩
  · exact Iff.rfl

/-- Single elements do not depend on how often the default is repeated. -/
theorem getD_intsOr_replicate (node : Node) (name : String) (count index : Nat) (value : Int64) :
    (node.intsOr name (List.replicate count value)).getD index value =
      (node.attributes.ints name).getD index value := by
  rw [intsOr]
  split
  · next empty =>
    rw [List.isEmpty_iff.mp empty, List.getD_eq_getElem?_getD, List.getElem?_replicate]
    split <;> rfl
  · rfl

/-- Nor do the first ones, as long as the default is repeated for all of them. -/
theorem take_intsOr_replicate (node : Node) (name : String) {count first second : Nat}
    (value : Int64) (inside : count ≤ first) (within : count ≤ second) :
    (node.intsOr name (List.replicate first value)).take count =
      (node.intsOr name (List.replicate second value)).take count := by
  rw [intsOr, intsOr]
  split
  · rw [List.take_replicate, List.take_replicate, Nat.min_eq_left inside, Nat.min_eq_left within]
  · rfl

/-- The window of a node has no dilations and rounds down when its attributes say so. -/
theorem dense_and_down_iff {window : SlidingWindow} (attributes : window.OfNode node) :
    ((∀ dilation ∈ window.dilations, dilation = 1) ∧ window.roundUp = false) ↔
      (∀ dilation ∈ node.attributes.ints "dilations", dilation = 1) ∧
        node.attributes.int "ceil_mode" 0 = 0 := by
  rw [attributes.dilations, attributes.roundUp, forall_mem_intsOr_replicate,
    decide_eq_false_iff_not, Classical.not_not]

/-! ## Comparing nodes -/

/-- Pooling and inference differ in the dilations and the rounding only. -/
theorem same_iff_of_pools {window : SlidingWindow} {handed : LayerWindow}
    (pooling : node.op ≠ "Conv")
    (read : SlidingWindow.read node (node.attributes.ints "kernel_shape") = .ok window)
    (pools : Building.Pools node axes handed) :
    window.Same axes handed ↔ ¬ node.Overlooks graph axes := by
  obtain ⟨declared, attributes⟩ := SlidingWindow.read_spec read
  have kernel : handed.kernel = window.kernel := pools.kernel.trans declared.symm
  have sizes : window.kernel.length = axes.count := kernel ▸ pools.count
  have stride : handed.stride = window.strides := by
    rw [pools.stride, kernel, ← attributes.strides]
    exact List.take_of_length_le (Nat.le_of_eq (attributes.stepped.trans sizes))
  have padding : handed.padding = effectivePadding window.pads := by
    rw [pools.padding, kernel, ← attributes.pads]
  rw [not_overlooks_iff_of_pool pooling, ← dense_and_down_iff attributes,
    SlidingWindow.same_iff_of_whole sizes attributes.stepped attributes.padded stride padding]
  exact and_iff_right kernel

/-- The kernel of a weight is that of inference unless the node declares another one. -/
theorem kernel_iff (node : Node) (weight : Shape) (count : Nat) :
    (weight.drop 2).take count = (Transfer.convolutionKernel node weight).take count ↔
      (node.attributes.ints "kernel_shape" ≠ [] →
        (weight.drop 2).take count = (node.attributes.ints "kernel_shape").take count) := by
  rw [Transfer.convolutionKernel]
  split
  · next empty => exact ⟨fun _ declared => absurd (List.isEmpty_iff.mp empty) declared, fun _ => rfl⟩
  · next declared =>
    exact ⟨fun same _ => same, fun same => same (mt List.isEmpty_iff.mpr declared)⟩

theorem layerKernel_eq {weight : Shape} {count : Nat}
    (shape : graph.knownShape? (node.input 1) = some weight) (rank : weight.length = count + 2) :
    node.layerKernel graph count = Transfer.convolutionKernel node weight := by
  have all : (weight.drop 2).take count = weight.drop 2 := by
    refine List.take_of_length_le ?_
    rw [List.length_drop]
    omega
  rw [layerKernel, shape, Option.getD_some, all]
  rfl

section
variable {weight : Shape} {window : SlidingWindow} {handed : LayerWindow}
  (convolving : node.op = "Conv") (shape : graph.knownShape? (node.input 1) = some weight)
  (read : SlidingWindow.read node (Transfer.convolutionKernel node weight) = .ok window)
  (dense : ∀ dilation ∈ node.attributes.ints "dilations", dilation = 1)
include convolving shape read dense

/-- A convolution of all axes and inference differ in the kernel and the rounding only. -/
theorem same_iff_of_convolution (sizes : window.kernel.length = axes.count)
    (whole : ∀ batch channels size,
      graph.knownShape? (node.input 0) ≠ some [batch, channels, size, 1])
    (kernel : handed.kernel = (weight.drop 2).take axes.count)
    (stride : handed.stride = window.strides)
    (padding : handed.padding = effectivePadding window.pads) :
    window.Same axes handed ↔ ¬ node.Overlooks graph axes := by
  obtain ⟨declared, attributes⟩ := SlidingWindow.read_spec read
  have taken : window.kernel.take axes.count = window.kernel :=
    List.take_of_length_le (Nat.le_of_eq sizes)
  rw [not_overlooks_iff_of_convolution convolving shape, ← kernel_iff, ← declared, taken,
    SlidingWindow.same_iff_of_whole sizes attributes.stepped attributes.padded stride padding,
    dense_and_down_iff attributes, kernel]
  constructor
  · exact fun ⟨weighted, _, down⟩ => ⟨down, weighted, fun _ _ _ flat => absurd flat (whole _ _ _)⟩
  · exact fun ⟨down, weighted, _⟩ => ⟨weighted, dense, down⟩

/-- A convolution that leaves out a last axis of size one differs from inference also in the steps
and in the padding along this axis. -/
theorem same_iff_of_flat_convolution {batch channels size : Int64}
    (flat : graph.knownShape? (node.input 0) = some [batch, channels, size, 1])
    (planar : window.kernel.length = 2)
    (linear : (Building.flattenKernel window.kernel).length = 1)
    (kernel : handed.kernel = (weight.drop 2).take 1)
    (stride : handed.stride = window.strides.take 1)
    (padding : handed.padding = effectivePadding
      [(Building.firstAxisPads window.pads).1, (Building.firstAxisPads window.pads).2]) :
    window.Same .one handed ↔ ¬ node.Overlooks graph .one := by
  obtain ⟨declared, attributes⟩ := SlidingWindow.read_spec read
  have aside : (∀ first second third, graph.knownShape? (node.input 0) =
        some [first, second, third, 1] →
      (node.attributes.ints "strides").getD 1 1 = 1 ∧
        (node.attributes.ints "pads").getD 1 0 = 0 ∧
        (node.attributes.ints "pads").getD 3 0 = 0) ↔
      window.strides.getD 1 1 = 1 ∧ window.pads.getD 1 0 = 0 ∧ window.pads.getD 3 0 = 0 := by
    rw [attributes.strides, attributes.pads]
    simp only [getD_intsOr_replicate]
    exact ⟨fun all => all _ _ _ flat, fun here _ _ _ _ => here⟩
  have down := dense_and_down_iff attributes
  rw [not_overlooks_iff_of_convolution convolving shape, ← kernel_iff, ← declared, aside]
  obtain ⟨size, last, sizes⟩ := List.length_eq_two.mp planar
  obtain ⟨step, side, strides⟩ := List.length_eq_two.mp (attributes.stepped.trans planar)
  obtain ⟨first, left, final, right, pads⟩ : ∃ first left final right,
      window.pads = [first, left, final, right] := by
    have four := attributes.padded
    rw [planar] at four
    match window.pads, four with
    | [first, left, final, right], _ => exact ⟨first, left, final, right, rfl⟩
  obtain ⟨_, _, _, dilations, roundUp⟩ := window
  dsimp only at sizes strides pads
  subst sizes strides pads
  obtain rfl : last = 1 := by
    by_contra other
    simp [Building.flattenKernel, other] at linear
  rw [SlidingWindow.same_iff_of_flat stride (by simpa [Building.firstAxisPads] using padding), kernel]
  constructor
  · rintro ⟨weighted, near, floor, steps, before, after⟩
    exact ⟨(down.mp ⟨near, floor⟩).2, weighted, steps, before, after⟩
  · rintro ⟨floor, weighted, steps, before, after⟩
    obtain ⟨near, floor⟩ := down.mpr ⟨dense, floor⟩
    exact ⟨weighted, near, floor, steps, before, after⟩

end

end Node

/-! ## Selected layers -/

namespace Layer

variable {graph : Graph} {node : Node} {before after : BufferPool} {layer : Layer}
  {outputs : List Knowledge}

theorem same_iff_of_selected_pool (pooling : node.op ≠ "Conv")
    (inferred : Transfer.pool node (node.shapesKnown graph) = .ok outputs)
    (selected : ∃ axes window, Building.Pools node axes window ∧
      layer.Slides graph node after axes window) :
    ∃ window axes handed, SlidingWindow.Infers graph node outputs window ∧
      layer.Slides graph node after axes handed ∧
      (window.Same axes handed ↔ ¬ node.Overlooks graph axes) := by
  obtain ⟨window, infers⟩ := Transfer.pool_spec pooling inferred
  obtain ⟨axes, handed, pools, slides⟩ := selected
  have read := infers.read
  rw [Node.inferredKernel, if_neg pooling] at read
  exact ⟨window, axes, handed, infers, slides, Node.same_iff_of_pools pooling read pools⟩

section convolution

variable {window : SlidingWindow} {input weight : Shape} {start : BufferPool}
  (convolving : node.op = "Conv") (known : graph.knownShape? (node.input 0) = some input)
  (counted : (input.drop 2).length = window.kernel.length)
  (shape : graph.knownShape? (node.input 1) = some weight)
  (read : SlidingWindow.read node (Transfer.convolutionKernel node weight) = .ok window)
include convolving known counted shape read

private theorem same_iff_of_convolution2D
    (made : Assigns (Building.convolution2D graph node) start (some layer) after) :
    ∃ axes handed, layer.Slides graph node after axes handed ∧
      (window.Same axes handed ↔ ¬ node.Overlooks graph axes) := by
  obtain ⟨declared, attributes⟩ := SlidingWindow.read_spec read
  obtain ⟨⟨batch, channels, height, width, wide, image⟩, dense, slides⟩ :=
    Building.convolution2D_spec shape made
  cases known.symm.trans image
  have sizes : window.kernel.length = 2 := counted.symm
  refine ⟨.two, _, slides, Node.same_iff_of_convolution convolving shape read dense sizes ?_ rfl
    ?_ ?_⟩
  · intro _ _ _ flat
    cases image.symm.trans flat
    exact wide rfl
  · rw [attributes.strides, sizes]
    rfl
  · rw [attributes.pads, sizes]
    rfl

/-- A layer for sequences takes them with their axis alone or with a last axis of size one. -/
private theorem same_iff_of_convolution1D (rank : weight.length = input.length)
    (made : Assigns (Building.convolution1D graph node) start (some layer) after) :
    ∃ axes handed, layer.Slides graph node after axes handed ∧
      (window.Same axes handed ↔ ¬ node.Overlooks graph axes) := by
  obtain ⟨declared, attributes⟩ := SlidingWindow.read_spec read
  obtain ⟨spatial, sequence, dense, linear, slides⟩ := Building.convolution1D_spec shape made
  obtain ⟨batch, channels, size, plain, rfl⟩ | ⟨batch, channels, size, flat, rfl⟩ :=
    Building.sequenceAxes?_spec sequence
  · cases known.symm.trans plain
    have sizes : window.kernel.length = 1 := counted.symm
    have pads := attributes.padded
    rw [attributes.pads, sizes] at pads
    refine ⟨.one, _, slides, Node.same_iff_of_convolution convolving shape read dense sizes ?_ rfl
      ?_ ?_⟩
    · intro _ _ _ plane
      cases plain.symm.trans plane
    · have all : window.strides.length ≤ 1 := Nat.le_of_eq (attributes.stepped.trans sizes)
      rw [← List.take_of_length_le all, attributes.strides, sizes]
      rfl
    · rw [attributes.pads, sizes]
      exact congrArg effectivePadding (Building.firstAxisPads_eq pads)
  · cases known.symm.trans flat
    have sizes : window.kernel.length = 2 := counted.symm
    have same : node.layerKernel graph 2 = Transfer.convolutionKernel node weight :=
      Node.layerKernel_eq shape rank
    rw [same, ← declared] at linear
    refine ⟨.one, _, slides, Node.same_iff_of_flat_convolution convolving shape read dense flat
      sizes linear rfl ?_ ?_⟩
    · rw [attributes.strides]
      exact Node.take_intsOr_replicate node "strides" 1 (Nat.le_refl 1) (by omega)
    · rw [attributes.pads, sizes]

end convolution

theorem same_iff_of_selected_convolution (convolving : node.op = "Conv")
    (inferred : Transfer.convolution node (node.shapesKnown graph) = .ok outputs)
    (selected : Assigns (selectAmong graph node
      [⟨"Conv2D", Building.convolution2D⟩, ⟨"Conv1D", Building.convolution1D⟩]) before layer after) :
    ∃ window axes handed, SlidingWindow.Infers graph node outputs window ∧
      layer.Slides graph node after axes handed ∧
      (window.Same axes handed ↔ ¬ node.Overlooks graph axes) := by
  obtain ⟨window, input, weight, infers, known, shape, rank⟩ :=
    Transfer.convolution_spec convolving inferred
  have read := infers.read
  rw [Node.inferredKernel, if_pos convolving, shape, Option.getD_some] at read
  have counted : (input.drop 2).length = window.kernel.length := by
    obtain ⟨other, sizes, again, moved, -⟩ := infers.sizes
    cases known.symm.trans again
    exact SlidingWindow.length_of_outputSizes moved
  obtain ⟨earlier, variant, later, same, -, start, made⟩ := selectAmong_spec selected
  have member := same ▸ List.mem_append_right earlier (List.mem_cons_self (a := variant))
  rcases List.mem_pair.mp member with rfl | rfl
  · obtain ⟨axes, handed, slides, agrees⟩ :=
      same_iff_of_convolution2D convolving known counted shape read made
    exact ⟨window, axes, handed, infers, slides, agrees⟩
  · obtain ⟨axes, handed, slides, agrees⟩ :=
      same_iff_of_convolution1D convolving known counted shape read rank made
    exact ⟨window, axes, handed, infers, slides, agrees⟩

/-- Inference and the layer of a node use the same window exactly when the layer overlooks nothing
of the window of the node. -/
theorem same_window_iff {transfer : Transfer} (op : node.op ∈ ["MaxPool", "AveragePool", "Conv"])
    (found : Transfer.builtin.get? node.op = some transfer)
    (inferred : transfer.apply node (node.shapesKnown graph) = .ok outputs)
    (selected : Assigns (select graph node) before layer after) :
    ∃ window axes handed, SlidingWindow.Infers graph node outputs window ∧
      layer.Slides graph node after axes handed ∧
      (window.Same axes handed ↔ ¬ node.Overlooks graph axes) := by
  rw [select] at selected
  simp only [List.mem_cons, List.not_mem_nil, or_false] at op
  rcases op with op | op | op <;> rw [op] at found selected
  · have pooling : node.op ≠ "Conv" := by rw [op]; decide
    have builtin : Transfer.builtin.get? "MaxPool" = some ⟨false, Transfer.pool⟩ := rfl
    have variants : Variant.ofOperator "MaxPool" =
        [⟨"MaxPool2D", Building.maxPool .two⟩, ⟨"MaxPool1D", Building.maxPool .one⟩] := rfl
    cases builtin.symm.trans found
    rw [variants] at selected
    exact same_iff_of_selected_pool pooling inferred
      (pools_of_selectAmong Building.maxPool_spec selected)
  · have pooling : node.op ≠ "Conv" := by rw [op]; decide
    have builtin : Transfer.builtin.get? "AveragePool" = some ⟨false, Transfer.pool⟩ := rfl
    have variants : Variant.ofOperator "AveragePool" =
        [⟨"AveragePool2D", Building.averagePool .two⟩,
          ⟨"AveragePool1D", Building.averagePool .one⟩] := rfl
    cases builtin.symm.trans found
    rw [variants] at selected
    exact same_iff_of_selected_pool pooling inferred
      (pools_of_selectAmong Building.averagePool_spec selected)
  · have builtin : Transfer.builtin.get? "Conv" = some ⟨false, Transfer.convolution⟩ := rfl
    have variants : Variant.ofOperator "Conv" =
        [⟨"Conv2D", Building.convolution2D⟩, ⟨"Conv1D", Building.convolution1D⟩] := rfl
    cases builtin.symm.trans found
    rw [variants] at selected
    exact same_iff_of_selected_convolution op inferred selected

/-! ## A window that is not the same -/

/-- Pooling with gaps between the elements of the window. -/
def gaps : GraphSpec where
  name := "gaps"
  nodes := [⟨"pool", "MaxPool", ["x"], ["y"],
    Dict.ofList [("kernel_shape", .ints [2, 2]), ("dilations", .ints [2, 2])]⟩]
  inputs := [⟨"x", 1, some [1, 1, 5, 5]⟩]
  outputs := [⟨"y", 1, some [1, 1, 3, 3]⟩]
  initializers := .empty
  values := []

private theorem select_gaps : ∃ graph, Graph.build gaps = .ok graph ∧
    ∃ node ∈ graph.live, node.op = "MaxPool" ∧ 2 ∈ node.attributes.ints "dilations" ∧
      Transfer.pool node (node.shapesKnown graph) =
        .ok [.shape [1, 1, 3, 3], .shape [1, 1, 3, 3]] ∧
      (((select graph node).run.run .empty).run []).1.1.toOption.isSome = true := by
  have evaluated : ((Graph.build gaps).toOption.any fun graph => decide (
      ∃ node ∈ graph.live, node.op = "MaxPool" ∧ 2 ∈ node.attributes.ints "dilations" ∧
        Transfer.pool node (node.shapesKnown graph) =
          .ok [.shape [1, 1, 3, 3], .shape [1, 1, 3, 3]] ∧
        (((select graph node).run.run .empty).run []).1.1.toOption.isSome = true)) = true := by
    decide +kernel
  obtain ⟨graph, built, holds⟩ := Outcome.eq_ok_of_any evaluated
  exact ⟨graph, built, of_decide_eq_true holds⟩

/-- Inference finds three positions along each axis for a window with gaps. The layer gets a window
without gaps. -/
theorem not_same_window_gaps : ∃ graph node layer after window axes handed,
    Graph.build gaps = .ok graph ∧ node ∈ graph.live ∧
      Transfer.pool node (node.shapesKnown graph) =
        .ok [.shape [1, 1, 3, 3], .shape [1, 1, 3, 3]] ∧
      Assigns (select graph node) .empty layer after ∧
      SlidingWindow.Infers graph node [.shape [1, 1, 3, 3], .shape [1, 1, 3, 3]] window ∧
      layer.Slides graph node after axes handed ∧ ¬ window.Same axes handed := by
  obtain ⟨graph, built, node, live, op, gap, inferred, selects⟩ := select_gaps
  have selected : Assigns (select graph node) .empty _ _ :=
    ⟨[], Prod.ext (Outcome.eq_ok_get selects) rfl⟩
  have found : Transfer.builtin.get? node.op = some ⟨false, Transfer.pool⟩ := by
    rw [op]
    rfl
  have pooling : node.op ≠ "Conv" := by
    rw [op]
    decide
  obtain ⟨window, axes, handed, infers, slides, same⟩ :=
    same_window_iff (by simp [op]) found inferred selected
  exact ⟨graph, node, _, _, window, axes, handed, built, live, inferred, selected, infers, slides,
    fun equal => same.mp equal (.dilation pooling gap (by decide))⟩

end Layer

end StaticNet
