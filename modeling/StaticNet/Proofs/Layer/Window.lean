import StaticNet.Proofs.Layer.Selection

/-! # The windows of layers

The variants of pooling and convolution hand a window to the layer that they build. Pooling takes it
from the attributes of the node: a kernel with two axes could lose the second one, but the variant
that keeps both is tried first. Convolution slides its weight, and over a sequence that is laid out
as an image it takes the first axis only.
-/

namespace StaticNet

/-- The object of the layer of a node slides a window over some axes. A convolution slides the
weight of the node, from whose buffer it takes its kernel. -/
inductive Layer.Slides (graph : Graph) (node : Node) (pool : BufferPool) (layer : Layer) :
    SpatialAxes → LayerWindow → Prop
  | maxPool {input : String} {axes : SpatialAxes} {window : LayerWindow} :
      layer.work = .object input (.maxPool axes window) → Slides graph node pool layer axes window
  | averagePool {input : String} {axes : SpatialAxes} {window : LayerWindow}
      {countsPadding : Int64} :
      layer.work = .object input (.averagePool axes window countsPadding) →
      Slides graph node pool layer axes window
  | convolution {input kernel bias : String} {axes : SpatialAxes} {groups : Int64}
      {padding stride : List Int64} {weight : Shape} :
      layer.work = .object input (.convolution axes kernel bias groups padding stride) →
      pool.Refers kernel (node.input 1) → graph.knownShape? (node.input 1) = some weight →
      Slides graph node pool layer axes ⟨(weight.drop 2).take axes.count, stride, padding⟩

namespace Building

variable {graph : Graph} {node : Node} {before after : BufferPool} {axes : SpatialAxes}

theorem object_spec {kind : Building ObjectKind} {layer : Layer}
    (assigns : Assigns (object graph node kind) before layer after) :
    ∃ input made middle, Assigns kind middle made after ∧ layer.work = .object input made := by
  obtain ⟨identifier, _, -, rest⟩ := assigns.of_bind
  obtain ⟨input, _, -, rest⟩ := rest.of_bind
  obtain ⟨output, middle, -, rest⟩ := rest.of_bind
  obtain ⟨made, _, built, rest⟩ := rest.of_bind
  obtain ⟨rfl, rfl⟩ := rest.of_pure
  exact ⟨input, made, middle, built, rfl⟩

/-! ## Pooling -/

/-- The window of a pooling layer has the kernel, the steps and the padding of its node, which are
those of its own axes only. -/
structure Pools (node : Node) (axes : SpatialAxes) (window : LayerWindow) : Prop where
  kernel : window.kernel = node.attributes.ints "kernel_shape"
  count : window.kernel.length = axes.count
  stride : window.stride =
    (node.intsOr "strides" (List.replicate window.kernel.length 1)).take axes.count
  padding : window.padding =
    effectivePadding (node.intsOr "pads" (List.replicate (2 * window.kernel.length) 0))
  padded : (node.intsOr "pads" (List.replicate (2 * window.kernel.length) 0)).length =
    2 * window.kernel.length

/-- Only a kernel with two axes can lose one. -/
theorem flattenKernel_eq {kernel : List Int64} (other : kernel.length ≠ 2) :
    flattenKernel kernel = kernel := by
  match kernel with
  | [] | [_] | _ :: _ :: _ :: _ => rfl

/-- The padding at both ends of a single axis is all its padding. -/
theorem firstAxisPads_eq {pads : List Int64} (single : pads.length = 2) :
    [(firstAxisPads pads).1, (firstAxisPads pads).2] = pads := by
  match pads with
  | [first, last] => simp [firstAxisPads]

/-- A variant that passes over nodes under one condition and refuses them under two others has met
the first condition or none of them. -/
private theorem passes_or_gives {passes refuses mismatches : Prop} [Decidable passes]
    [Decidable refuses] [Decidable mismatches] {first second : Refusal} {window : LayerWindow}
    {window? : Option LayerWindow}
    (assigns : Assigns (do
      if passes then return none
      if refuses then throw first
      if mismatches then throw second
      return some window : Building (Option LayerWindow)) before window? after) :
    (window? = none ∧ passes) ∨ (window? = some window ∧ ¬ passes ∧ ¬ mismatches) := by
  split at assigns
  · next passed => exact .inl ⟨assigns.of_pure.1, passed⟩
  · next kept =>
    obtain ⟨matching, rest⟩ := assigns.of_refusal.2.of_refusal
    exact .inr ⟨rest.of_pure.1, kept, matching⟩

/-- A variant passes over kernels with another number of axes. Otherwise the window is that of the
node, since no variant with a single axis gets a kernel that has two. -/
theorem poolingWindow?_spec {window? : Option LayerWindow}
    (assigns : Assigns (poolingWindow? node axes) before window? after)
    (whole : (node.attributes.ints "kernel_shape").length = 2 → axes = .two) :
    (window? = none ∧ (node.attributes.ints "kernel_shape").length ≠ axes.count) ∨
      ∃ window, window? = some window ∧ Pools node axes window := by
  unfold poolingWindow? at assigns
  cases axes with
  | two =>
    obtain passed | ⟨given, counted, matching⟩ := passes_or_gives assigns
    · exact .inl passed
    · simp only [not_or, Classical.not_not] at counted matching
      exact .inr ⟨_, given, rfl, counted, rfl, rfl, matching.2⟩
  | one =>
    have linear : flattenKernel (node.attributes.ints "kernel_shape") =
        node.attributes.ints "kernel_shape" :=
      flattenKernel_eq fun two => nomatch whole two
    obtain passed | ⟨given, counted, matching⟩ := passes_or_gives assigns
    · rw [linear] at passed
      exact .inl passed
    · simp only [not_or, Classical.not_not, linear] at given counted matching
      refine .inr ⟨_, given, rfl, counted, rfl, ?_, matching.2⟩
      rw [firstAxisPads_eq (by rw [matching.2, counted]; rfl)]

/-- A variant of pooling passes over a node with another number of axes, or it gives the layer the
window of the node. -/
def PoolsOr (graph : Graph) (node : Node) (axes : SpatialAxes) (pool : BufferPool)
    (layer? : Option Layer) : Prop :=
  (layer? = none ∧ (node.attributes.ints "kernel_shape").length ≠ axes.count) ∨
    ∃ layer window, layer? = some layer ∧ Pools node axes window ∧
      layer.Slides graph node pool axes window

private theorem pooling_spec (kind : LayerWindow → ObjectKind) {layer? : Option Layer}
    (slides : ∀ input (layer : Layer) pool window, layer.work = .object input (kind window) →
      layer.Slides graph node pool axes window)
    (whole : (node.attributes.ints "kernel_shape").length = 2 → axes = .two)
    (assigns : Assigns (do
      match ← poolingWindow? node axes with
      | none => return none
      | some window => return some (← object graph node (return kind window))) before layer? after) :
    PoolsOr graph node axes after layer? := by
  obtain ⟨window?, middle, read, rest⟩ := assigns.of_bind
  rcases poolingWindow?_spec read whole with ⟨rfl, other⟩ | ⟨window, rfl, pools⟩
  · obtain ⟨rfl, -⟩ := rest.of_pure
    exact .inl ⟨rfl, other⟩
  · obtain ⟨layer, last, made, rest⟩ := rest.of_bind
    obtain ⟨rfl, rfl⟩ := rest.of_pure
    obtain ⟨input, kind, _, plain, work⟩ := object_spec made
    obtain ⟨rfl, rfl⟩ := plain.of_pure
    exact .inr ⟨layer, window, rfl, pools, slides input layer _ window work⟩

theorem maxPool_spec {layer? : Option Layer}
    (whole : (node.attributes.ints "kernel_shape").length = 2 → axes = .two)
    (assigns : Assigns (maxPool axes graph node) before layer? after) :
    PoolsOr graph node axes after layer? :=
  pooling_spec (.maxPool axes) (fun _ _ _ _ => .maxPool) whole assigns

theorem averagePool_spec {layer? : Option Layer}
    (whole : (node.attributes.ints "kernel_shape").length = 2 → axes = .two)
    (assigns : Assigns (averagePool axes graph node) before layer? after) :
    PoolsOr graph node axes after layer? :=
  pooling_spec (fun window => .averagePool axes window
    (if window.padding.isEmpty then 1 else node.attributes.int "count_include_pad" 0))
    (fun _ _ _ _ => .averagePool) whole assigns

/-! ## Convolution -/

theorem checkConvolution_spec
    (assigns : Assigns (checkConvolution node) before ⟨⟩ after) :
    ∀ dilation ∈ node.attributes.ints "dilations", dilation = 1 := by
  obtain ⟨dense, -⟩ := assigns.of_refusal.2.of_refusal
  intro dilation member
  by_contra other
  exact dense (List.any_eq_true.mpr ⟨dilation, member, decide_eq_true other⟩)

/-- A convolution that is built slides its weight with the given steps and padding. -/
theorem convolutionObject_spec {padding stride : List Int64} {layer? : Option Layer}
    {weight : Shape} (shape : graph.knownShape? (node.input 1) = some weight)
    (assigns : Assigns (convolutionObject graph node axes padding stride) before layer? after) :
    ∃ layer, layer? = some layer ∧
      layer.Slides graph node after axes ⟨(weight.drop 2).take axes.count, stride, padding⟩ := by
  obtain ⟨layer, last, made, rest⟩ := assigns.of_bind
  obtain ⟨rfl, rfl⟩ := rest.of_pure
  obtain ⟨input, kind, _, named, work⟩ := object_spec made
  obtain ⟨bias, _, -, named⟩ := named.of_bind
  obtain ⟨kernel, _, kernelNamed, named⟩ := named.of_bind
  obtain ⟨rfl, rfl⟩ := named.of_pure
  exact ⟨layer, rfl, .convolution work (ensures_bufferName _ _ _ _ kernelNamed).2 shape⟩

/-- A convolution of images has the steps and the padding of its node. -/
theorem convolution2D_spec {layer : Layer} {weight : Shape}
    (shape : graph.knownShape? (node.input 1) = some weight)
    (assigns : Assigns (convolution2D graph node) before (some layer) after) :
    (∃ batch channels height width, width ≠ 1 ∧
      graph.knownShape? (node.input 0) = some [batch, channels, height, width]) ∧
    (∀ dilation ∈ node.attributes.ints "dilations", dilation = 1) ∧
    layer.Slides graph node after .two ⟨(weight.drop 2).take 2, node.intsOr "strides" [1, 1],
      effectivePadding (node.intsOr "pads" [0, 0, 0, 0])⟩ := by
  unfold convolution2D at assigns
  split at assigns
  · next batch channels height width known =>
    split at assigns
    · cases assigns.of_pure.1
    · next wide =>
      obtain ⟨_, rest⟩ := assigns.of_guarded
      obtain ⟨_, _, checked, rest⟩ := rest.of_bind
      obtain ⟨_, same, slides⟩ :=
        convolutionObject_spec shape rest.of_refusal.2.of_refusal.2.of_refusal.2
      cases same
      exact ⟨⟨batch, channels, height, width, wide, known⟩, checkConvolution_spec checked, slides⟩
  · cases assigns.of_pure.1

/-- A convolution of sequences has the first step of its node and the padding of the first axis. A
second axis has a kernel of size one. -/
theorem convolution1D_spec {layer : Layer} {weight : Shape}
    (shape : graph.knownShape? (node.input 1) = some weight)
    (assigns : Assigns (convolution1D graph node) before (some layer) after) :
    ∃ spatial, (graph.knownShape? (node.input 0)).bind sequenceAxes? = some spatial ∧
      (∀ dilation ∈ node.attributes.ints "dilations", dilation = 1) ∧
      (flattenKernel (node.layerKernel graph spatial)).length = 1 ∧
      layer.Slides graph node after .one ⟨(weight.drop 2).take 1, (node.intsOr "strides" [1]).take 1,
        effectivePadding
          [(firstAxisPads (node.intsOr "pads" (List.replicate (2 * spatial) 0))).1,
            (firstAxisPads (node.intsOr "pads" (List.replicate (2 * spatial) 0))).2]⟩ := by
  unfold convolution1D at assigns
  split at assigns
  · cases assigns.of_pure.1
  · next spatial known =>
    obtain ⟨_, _, checked, rest⟩ := assigns.of_bind
    obtain ⟨linear, rest⟩ := rest.of_refusal
    obtain ⟨-, rest⟩ := rest.of_refusal.2.of_refusal
    obtain ⟨_, same, slides⟩ := convolutionObject_spec shape rest.of_refusal.2
    cases same
    exact ⟨spatial, known, checkConvolution_spec checked, Classical.not_not.mp linear, slides⟩

/-- The spatial axes of a sequence are those of its shape; of two, the last has size one. -/
theorem sequenceAxes?_spec {shape? : Option Shape} {spatial : Nat}
    (sequence : shape?.bind sequenceAxes? = some spatial) :
    (∃ batch channels size, shape? = some [batch, channels, size] ∧ spatial = 1) ∨
      ∃ batch channels size, shape? = some [batch, channels, size, 1] ∧ spatial = 2 := by
  obtain ⟨shape, rfl, counted⟩ := Option.bind_eq_some_iff.mp sequence
  rw [sequenceAxes?.eq_def] at counted
  split at counted
  · cases counted
    exact .inl ⟨_, _, _, rfl, rfl⟩
  · split at counted
    · next one =>
      cases counted
      exact .inr ⟨_, _, _, by rw [one], rfl⟩
    · cases counted
  · cases counted

end Building

/-! ## Selection -/

namespace Layer

variable {graph : Graph} {node : Node} {before after : BufferPool} {layer : Layer}

/-- The selected layer is built by the first variant that does not pass over its node. -/
theorem selectAmong_spec {variants : List Variant}
    (assigns : Assigns (selectAmong graph node variants) before layer after) :
    ∃ earlier variant later, variants = earlier ++ variant :: later ∧
      (∀ other ∈ earlier, ∃ start finish,
        Assigns (other.build graph node) start none finish) ∧
      ∃ start, Assigns (variant.build graph node) start (some layer) after := by
  induction variants generalizing before with
  | nil => exact assigns.of_throw.elim
  | cons variant rest ih =>
    obtain ⟨built, middle, first, others⟩ := assigns.of_bind
    cases built with
    | some made =>
      obtain ⟨_, last, told, done⟩ := others.of_bind
      obtain rfl := told.of_report
      obtain ⟨rfl, rfl⟩ := done.of_pure
      exact ⟨[], variant, rest, rfl, fun _ member => (nomatch member), before, first.of_adapt⟩
    | none =>
      obtain ⟨_, last, told, done⟩ := others.of_bind
      obtain ⟨earlier, chosen, later, rfl, passed, made⟩ := ih done
      refine ⟨variant :: earlier, chosen, later, rfl, ?_, made⟩
      exact List.forall_mem_cons.mpr ⟨⟨before, middle, first.of_adapt⟩, passed⟩

/-- A layer of pooling that is selected has the window of its node. The variant with a single axis
stands second, so the first one has passed over the node. -/
theorem pools_of_selectAmong {build : SpatialAxes → Graph → Node → Building (Option Layer)}
    {first second : String}
    (spec : ∀ {axes start layer? finish},
      ((node.attributes.ints "kernel_shape").length = 2 → axes = .two) →
      Assigns (build axes graph node) start layer? finish →
      Building.PoolsOr graph node axes finish layer?)
    (assigns : Assigns (selectAmong graph node [⟨first, build .two⟩, ⟨second, build .one⟩]) before
      layer after) :
    ∃ axes window, Building.Pools node axes window ∧ layer.Slides graph node after axes window := by
  obtain ⟨earlier, variant, later, same, passed, start, made⟩ := selectAmong_spec assigns
  cases earlier with
  | nil =>
    obtain ⟨rfl, -⟩ := List.cons.inj same
    obtain ⟨none, -⟩ | ⟨_, window, some, pools, slides⟩ := spec (fun _ => rfl) made
    · cases none
    · cases some
      exact ⟨.two, window, pools, slides⟩
  | cons other rest =>
    obtain ⟨rfl, others⟩ := List.cons.inj same
    obtain ⟨_, _, skipped⟩ := passed _ (List.mem_cons_self ..)
    obtain ⟨-, planar⟩ | ⟨_, _, some, -⟩ := spec (fun _ => rfl) skipped
    · cases rest with
      | nil =>
        obtain ⟨rfl, -⟩ := List.cons.inj others
        obtain ⟨none, -⟩ | ⟨_, window, some, pools, slides⟩ :=
          spec (fun two => absurd two planar) made
        · cases none
        · cases some
          exact ⟨.one, window, pools, slides⟩
      | cons _ _ => simp at others
    · cases some

end Layer

end StaticNet
