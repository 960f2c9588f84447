import StaticNet.Proofs.Layer.References

/-! # Buffers of selected layers

Building a layer only extends the pool. The layer then has the identifier of its node, and every
buffer that it names is the buffer of an operand of the node: of one of its inputs, of its first
output, or of the absent tensor.
-/

namespace StaticNet

/-- Whenever a computation succeeds, it has extended the pool, and its result satisfies a condition
on the pool that it leaves. -/
def Ensures {ε α : Type} (graph : Graph) (computation : ExceptT ε Allocating α)
    (post : BufferPool → α → Prop) : Prop :=
  ∀ before result after, Assigns computation before result after →
    before.Extends graph after ∧ post after result

namespace Ensures

variable {ε δ α β : Type} {graph : Graph} {post : BufferPool → α → Prop}
  {next : BufferPool → β → Prop}

theorem pure {value : α} (holds : ∀ pool, post pool value) :
    Ensures graph (Pure.pure value : ExceptT ε Allocating α) post := by
  intro before result after assigns
  obtain ⟨rfl, rfl⟩ := assigns.of_pure
  exact ⟨.refl, holds _⟩

theorem throw (cause : ε) :
    Ensures graph (MonadExcept.throw cause : ExceptT ε Allocating α) post := by
  intro before result after assigns
  exact assigns.of_throw.elim

/-- What holds after the first step and survives extensions can be used for the others. -/
theorem bind {first : ExceptT ε Allocating α} {rest : α → ExceptT ε Allocating β}
    (done : Ensures graph first post)
    (stable : ∀ value before after, before.Extends graph after → post before value →
      post after value)
    (others : ∀ value, Ensures graph (rest value) fun pool result => post pool value →
      next pool result) : Ensures graph (first >>= rest) next := by
  intro before result after assigns
  obtain ⟨value, middle, start, finish⟩ := assigns.of_bind
  obtain ⟨extended, holds⟩ := done before value middle start
  obtain ⟨further, conclude⟩ := others value middle result after finish
  exact ⟨extended.trans further, conclude (stable value middle after further holds)⟩

/-- A first step of which only its extending the pool matters. -/
theorem after {first : ExceptT ε Allocating α} {rest : α → ExceptT ε Allocating β}
    (done : Ensures graph first fun _ _ => True)
    (others : ∀ value, Ensures graph (rest value) next) :
    Ensures graph (first >>= rest) next := by
  refine bind done (fun _ _ _ _ holds => holds) fun value before result after assigns => ?_
  obtain ⟨extended, holds⟩ := others value before result after assigns
  exact ⟨extended, fun _ => holds⟩

theorem mono {computation : ExceptT ε Allocating α} {weaker : BufferPool → α → Prop}
    (done : Ensures graph computation post)
    (implies : ∀ pool value, post pool value → weaker pool value) :
    Ensures graph computation weaker := by
  intro before result after assigns
  obtain ⟨extended, holds⟩ := done before result after assigns
  exact ⟨extended, implies after result holds⟩

theorem of_except {outcome : Except ε α}
    (holds : ∀ pool value, outcome = .ok value → post pool value) :
    Ensures graph (liftM outcome : ExceptT ε Allocating α) post := by
  intro before result after assigns
  obtain ⟨done, rfl⟩ := assigns.of_except
  exact ⟨.refl, holds _ _ done⟩

theorem report (entry : Entry) : Ensures graph
    (liftM (StaticNet.report entry) : ExceptT ε Allocating PUnit) fun _ _ => True := by
  intro before result after assigns
  obtain rfl := assigns.of_report
  exact ⟨.refl, trivial⟩

theorem adapt {wrap : ε → δ} {computation : ExceptT ε Allocating α}
    (done : Ensures graph computation post) :
    Ensures graph (ExceptT.adapt wrap computation) post :=
  fun before result after assigns => done before result after assigns.of_adapt

theorem map {computation : ExceptT ε Allocating α} {change : α → β}
    (done : Ensures graph computation fun pool value => next pool (change value)) :
    Ensures graph (computation >>= fun value => Pure.pure (change value)) next := by
  intro before result after assigns
  obtain ⟨value, middle, start, finish⟩ := assigns.of_bind
  obtain ⟨rfl, rfl⟩ := finish.of_pure
  exact done before value after start

/-- A first step that is taken under a condition only. -/
theorem guarded {condition : Prop} [Decidable condition] {first : ExceptT ε Allocating PUnit}
    {rest : PUnit → ExceptT ε Allocating β} (done : Ensures graph first fun _ _ => True)
    (others : Ensures graph (rest ⟨⟩) next) :
    Ensures graph (if condition then first >>= rest else rest ⟨⟩) next := by
  split
  · exact .after done fun _ => others
  · exact others

theorem either {condition : Prop} [Decidable condition] {first second : ExceptT ε Allocating α}
    (left : Ensures graph first post) (right : Ensures graph second post) :
    Ensures graph (if condition then first else second) post := by
  split
  · exact left
  · exact right

/-- What each step makes of its input holds of all results. -/
theorem mapM {step : α → ExceptT ε Allocating β} (made : BufferPool → α → β → Prop)
    (steps : ∀ input, Ensures graph (step input) fun pool result => made pool input result)
    (stable : ∀ input result before after, before.Extends graph after →
      made before input result → made after input result) (inputs : List α) :
    Ensures graph (inputs.mapM step) fun pool results =>
      ∀ result ∈ results, ∃ input ∈ inputs, made pool input result := by
  induction inputs with
  | nil => exact .pure fun _ _ member => nomatch member
  | cons input rest ih =>
    rw [List.mapM_cons]
    refine .bind (steps input) (fun result => stable input result) fun result =>
      .bind ih ?_ fun results => .pure ?_
    · intro results before after extended made result member
      obtain ⟨source, listed, holds⟩ := made result member
      exact ⟨source, listed, stable source result before after extended holds⟩
    · intro pool others first
      refine List.forall_mem_cons.mpr ⟨⟨input, List.mem_cons_self .., first⟩, ?_⟩
      intro result member
      obtain ⟨source, listed, holds⟩ := others result member
      exact ⟨source, List.mem_cons_of_mem _ listed, holds⟩

end Ensures

/-- The tensors that the layer of a node may work with. -/
def Node.operands (node : Node) : List String := "" :: node.inputs ++ node.outputs.take 1

theorem Node.mem_operands_of_mem (node : Node) {tensor : String} (member : tensor ∈ node.inputs) :
    tensor ∈ node.operands := List.mem_append_left _ (List.mem_cons_of_mem _ member)

theorem Node.input_mem_operands (node : Node) (index : Nat) : node.input index ∈ node.operands := by
  rw [input, List.getD_eq_getElem?_getD]
  cases found : node.inputs[index]? with
  | none => exact List.mem_cons_self ..
  | some tensor =>
    exact node.mem_operands_of_mem (List.mem_of_getElem? found)

theorem Node.output_mem_operands (node : Node) : node.output 0 ∈ node.operands := by
  rw [output, operands]
  cases node.outputs with
  | nil => simp
  | cons first rest => simp

namespace Building

/-- Every buffer of a list is that of an operand of a node; the empty name stands for none. -/
def RefersTo (node : Node) (pool : BufferPool) (names : List String) : Prop :=
  ∀ name ∈ names, name ≠ "" → ∃ tensor ∈ node.operands, pool.Refers name tensor

variable {graph : Graph} {node : Node}

theorem RefersTo.nil {pool : BufferPool} : RefersTo node pool [] := fun _ member => nomatch member

theorem RefersTo.cons {pool : BufferPool} {name tensor : String} {names : List String}
    (operand : tensor ∈ node.operands) (refers : name ≠ "" → pool.Refers name tensor)
    (others : RefersTo node pool names) : RefersTo node pool (name :: names) :=
  List.forall_mem_cons.mpr ⟨fun present => ⟨tensor, operand, refers present⟩, others⟩

theorem RefersTo.extend {before after : BufferPool} {names : List String}
    (refers : RefersTo node before names) (extended : before.Extends graph after) :
    RefersTo node after names := by
  intro name member present
  obtain ⟨tensor, operand, refersName⟩ := refers name member present
  exact ⟨tensor, operand, extended.refers refersName⟩

/-- A layer has the identifier of its node and names only buffers of operands. -/
structure Serves (node : Node) (pool : BufferPool) (layer : Layer) : Prop where
  identified : pool.layers.lookup node.id = some layer.identifier
  refers : RefersTo node pool layer.references

theorem Serves.extend {before after : BufferPool} {layer : Layer}
    (serves : Serves node before layer) (extended : before.Extends graph after) :
    Serves node after layer :=
  ⟨extended.lookup serves.identified, serves.refers.extend extended⟩

/-! ## Single buffers -/

theorem ensures_note {variant : String} {level : Level} {message : String}
    {fields : List (String × String)} :
    Ensures graph (note node variant level message fields) fun _ _ => True := .report _

theorem ensures_bufferName (tensor : String) :
    Ensures graph (bufferName graph tensor) fun pool name => pool.Refers name tensor := by
  intro before result after assigns
  obtain ⟨buffer, middle, first, rest⟩ := assigns.of_bind
  obtain ⟨rfl, rfl⟩ := rest.of_pure
  obtain ⟨extended, found⟩ := BufferPool.buffer_yields first.of_lift
  exact ⟨extended, buffer, found, rfl⟩

/-- The name of a buffer can be used in all that follows. -/
theorem ensures_named {β : Type} {tensor : String} {rest : String → Building β}
    {next : BufferPool → β → Prop}
    (others : ∀ name, Ensures graph (rest name) fun pool result => pool.Refers name tensor →
      next pool result) : Ensures graph (bufferName graph tensor >>= rest) next :=
  .bind (ensures_bufferName tensor) (fun _ _ _ extended refers => extended.refers refers) others

theorem ensures_optionalName {β : Type} {tensor : String} {rest : String → Building β}
    {next : BufferPool → β → Prop}
    (others : ∀ name, Ensures graph (rest name) fun pool result =>
      (name ≠ "" → pool.Refers name tensor) → next pool result) :
    Ensures graph (optionalName graph tensor >>= rest) next := by
  refine .bind ?_ (fun _ _ _ extended refers present => extended.refers (refers present)) others
  rw [optionalName]
  split
  · exact .pure fun _ present => absurd rfl present
  · exact (ensures_bufferName tensor).mono fun _ _ refers _ => refers

/-- The identifier of a node can be used in all that follows. -/
theorem ensures_identified {β : Type} {rest : String → Building β} {next : BufferPool → β → Prop}
    (others : ∀ identifier, Ensures graph (rest identifier) fun pool result =>
      pool.layers.lookup node.id = some identifier → next pool result) :
    Ensures graph ((liftM (BufferPool.layerName node) : Building String) >>= rest) next :=
  .bind (fun _ _ _ assigns => BufferPool.layerName_yields assigns.of_lift)
    (fun _ _ _ extended found => extended.lookup found) others

/-! ## Objects and statements -/

/-- The layer that a variant builds, if any, serves its node. -/
def Builds (graph : Graph) (node : Node) (building : Building (Option Layer)) : Prop :=
  Ensures graph building fun pool layer? => ∀ layer, layer? = some layer → Serves node pool layer

theorem builds_none : Builds graph node (pure none) :=
  .pure fun _ _ same => nomatch same

/-- An object names its input, its output, and the buffers of its kind. These may refer to operands
because of what was known before. -/
theorem ensures_object {kind : Building ObjectKind} (made : BufferPool → ObjectKind → Prop)
    (known : BufferPool → Prop) (done : Ensures graph kind made)
    (stable : ∀ kind before after, before.Extends graph after → made before kind → made after kind)
    (refers : ∀ pool kind, made pool kind → known pool → RefersTo node pool kind.buffers) :
    Ensures graph (do return some (← object graph node kind)) fun pool layer? => known pool →
      ∀ layer, layer? = some layer → Serves node pool layer := by
  refine .map (ensures_identified fun identifier => ensures_named fun input =>
    ensures_named fun output => .bind done stable fun kind => .pure ?_)
  rintro pool holds outputRefers inputRefers identified given layer ⟨⟩
  refine ⟨identified, fun name member => ?_⟩
  exact RefersTo.cons (node.input_mem_operands 0) (fun _ => inputRefers)
    (.cons node.output_mem_operands (fun _ => outputRefers) (refers pool kind holds given)) name
      (Layer.of_mem_references_object member).2

theorem builds_object {kind : Building ObjectKind}
    (named : Ensures graph kind fun pool kind => RefersTo node pool kind.buffers) :
    Builds graph node (do return some (← object graph node kind)) :=
  (ensures_object _ (fun _ => True) named (fun _ _ _ extended refers => refers.extend extended)
    fun _ _ refers _ => refers).mono fun _ _ builds => builds trivial

theorem builds_plainObject {kind : ObjectKind} (plain : kind.buffers = []) :
    Builds graph node (do return some (← object graph node (pure kind))) :=
  builds_object (.pure fun _ => plain ▸ RefersTo.nil)

/-- A statement names its output and the buffers of its kind. These may refer to operands because of
what was known before. -/
theorem ensures_statement {kind : Building StatementKind}
    (made : BufferPool → StatementKind → Prop) (known : BufferPool → Prop)
    (done : Ensures graph kind made)
    (stable : ∀ kind before after, before.Extends graph after → made before kind → made after kind)
    (refers : ∀ pool kind, made pool kind → known pool → RefersTo node pool kind.buffers) :
    Ensures graph (do return some (← statement graph node kind)) fun pool layer? => known pool →
      ∀ layer, layer? = some layer → Serves node pool layer := by
  refine .map (ensures_identified fun identifier => ensures_named fun output =>
    .bind done stable fun kind => .pure ?_)
  rintro pool holds outputRefers identified given layer ⟨⟩
  refine ⟨identified, fun name member => ?_⟩
  exact RefersTo.cons node.output_mem_operands (fun _ => outputRefers)
    (refers pool kind holds given) name (Layer.of_mem_references_statement member).2

theorem builds_statement {kind : Building StatementKind}
    (named : Ensures graph kind fun pool kind => RefersTo node pool kind.buffers) :
    Builds graph node (do return some (← statement graph node kind)) :=
  (ensures_statement _ (fun _ => True) named
    (fun _ _ _ extended refers => refers.extend extended)
    fun _ _ refers _ => refers).mono fun _ _ builds => builds trivial

/-! ## The variants -/

theorem builds_activation (function : Activation) :
    Builds graph node (activation function graph node) := by
  unfold activation
  dsimp only
  split
  · exact .after ensures_note fun _ => builds_none
  · exact builds_plainObject rfl

theorem ensures_bound {index : Nat} {fallback : Binary32} {refusal : String → Refusal} :
    Ensures graph (bound node index fallback refusal) fun _ _ => True := by
  rw [bound]
  refine .either (.pure fun _ => trivial) ?_
  split
  · exact .pure fun _ => trivial
  · exact .throw _

theorem builds_clip : Builds graph node (clip graph node) := by
  unfold clip
  exact .after ensures_bound fun low => .after ensures_bound fun high => builds_plainObject rfl

theorem builds_responseNormalization : Builds graph node (responseNormalization graph node) := by
  unfold responseNormalization
  exact .guarded (.throw _) (builds_plainObject rfl)

theorem builds_batchNormalization : Builds graph node (batchNormalization graph node) := by
  unfold batchNormalization
  refine .guarded (.throw _) (builds_object ?_)
  refine ensures_named fun gammas => ensures_named fun betas => ensures_named fun means =>
    ensures_named fun variances => .pure ?_
  intro pool fourth third second first
  exact .cons (node.input_mem_operands 1) (fun _ => first) <|
    .cons (node.input_mem_operands 2) (fun _ => second) <|
    .cons (node.input_mem_operands 3) (fun _ => third) <|
    .cons (node.input_mem_operands 4) (fun _ => fourth) .nil

theorem builds_convolutionObject {axes : SpatialAxes} {padding stride : List Int64} :
    Builds graph node (convolutionObject graph node axes padding stride) := by
  unfold convolutionObject
  refine builds_object (ensures_optionalName fun bias => ensures_named fun kernel => .pure ?_)
  intro pool kernelRefers biasRefers
  exact .cons (node.input_mem_operands 1) (fun _ => kernelRefers) <|
    .cons (node.input_mem_operands 2) biasRefers .nil

theorem ensures_checkConvolution :
    Ensures graph (checkConvolution node) fun _ _ => True := by
  unfold checkConvolution
  exact .guarded (.throw _) <| .guarded (.throw _) <| .either (.throw _) (.pure fun _ => trivial)

theorem builds_convolution2D : Builds graph node (convolution2D graph node) := by
  unfold convolution2D
  split
  · split
    · exact builds_none
    · exact .guarded (ensures_note) <| .after ensures_checkConvolution fun _ =>
        .guarded (.throw _) <| .guarded (.throw _) <| .guarded (.throw _) <|
          builds_convolutionObject
  · exact builds_none

theorem builds_convolution1D : Builds graph node (convolution1D graph node) := by
  unfold convolution1D
  split
  · exact builds_none
  · exact .after ensures_checkConvolution fun _ => .guarded (.throw _) <| .guarded (.throw _) <|
      .guarded (.throw _) <| .guarded (.throw _) builds_convolutionObject

/-- The bias is named before the object, so it is known to refer to an operand when the object is
made. -/
theorem builds_fullyConnected : Builds graph node (fullyConnected graph node) := by
  unfold fullyConnected
  refine .either builds_none <| .either builds_none <| .either builds_none ?_
  refine ensures_optionalName fun bias => ensures_object
    (fun pool kind => ∃ kernel, kind = .fullyConnected kernel bias ∧
      pool.Refers kernel (node.input 1)) _ ?_ ?_ ?_
  · exact ensures_named fun kernel => .pure fun _ refers => ⟨kernel, rfl, refers⟩
  · rintro kind before after extended ⟨kernel, same, refers⟩
    exact ⟨kernel, same, extended.refers refers⟩
  · rintro pool kind ⟨kernel, rfl, kernelRefers⟩ biasRefers
    exact .cons (node.input_mem_operands 1) (fun _ => kernelRefers) <|
      .cons (node.input_mem_operands 2) biasRefers .nil

theorem ensures_poolingWindow? {axes : SpatialAxes} :
    Ensures graph (poolingWindow? node axes) fun _ _ => True := by
  unfold poolingWindow?
  refine .either (.pure fun _ => trivial) ?_
  refine .guarded (.throw _) ?_
  refine .guarded (.throw _) ?_
  exact .pure fun _ => trivial

theorem builds_maxPool (axes : SpatialAxes) : Builds graph node (maxPool axes graph node) := by
  unfold maxPool
  refine .after ensures_poolingWindow? fun window? => ?_
  split
  · exact builds_none
  · exact builds_plainObject rfl

theorem builds_averagePool (axes : SpatialAxes) :
    Builds graph node (averagePool axes graph node) := by
  unfold averagePool
  refine .after ensures_poolingWindow? fun window? => ?_
  split
  · exact builds_none
  · exact builds_plainObject rfl

theorem builds_globalPool {kind : ObjectKind} (plain : kind.buffers = []) :
    Builds graph node (globalPool kind graph node) := by
  unfold globalPool
  exact .either builds_none (builds_plainObject plain)

theorem ensures_checkConcatInput {output : Option Shape} {tensor : String} :
    Ensures graph (checkConcatInput graph output tensor) fun _ _ => True := by
  unfold checkConcatInput
  split
  · exact .either (.pure fun _ => trivial) (.throw _)
  · exact .pure fun _ => trivial

theorem builds_concat : Builds graph node (concat graph node) := by
  unfold concat
  refine .guarded (.throw _) ?_
  refine .bind (.mapM (fun pool tensor name => pool.Refers name tensor) ?_ ?_ _) ?_
    fun inputs => ensures_statement (fun _ kind => kind.buffers = inputs) _ ?_ ?_ ?_
  · exact fun tensor => .after ensures_checkConcatInput fun _ => ensures_bufferName tensor
  · exact fun _ _ _ _ extended refers => extended.refers refers
  · intro names before after extended refers name member
    obtain ⟨tensor, listed, refersName⟩ := refers name member
    exact ⟨tensor, listed, extended.refers refersName⟩
  · exact .pure fun _ => rfl
  · exact fun _ _ _ _ same => same
  · rintro pool kind same refers name member -
    obtain ⟨tensor, listed, refersName⟩ := refers name (same ▸ member)
    exact ⟨tensor, node.mem_operands_of_mem listed, refersName⟩

theorem builds_copy : Builds graph node (copy graph node) := by
  unfold copy
  split
  · refine .guarded (.throw _) (builds_statement (ensures_named fun input => .pure ?_))
    exact fun _ refers => .cons (node.input_mem_operands 0) (fun _ => refers) .nil
  · exact builds_none

theorem builds_add : Builds graph node (add graph node) := by
  unfold add
  dsimp only
  have sum : ∀ left right : Shape, Builds graph node (do return some (← statement graph node do
      let leftName ← bufferName graph (node.input 0)
      let rightName ← bufferName graph (node.input 1)
      return .add leftName rightName left right)) := by
    intro left right
    refine builds_statement (ensures_named fun leftName => ensures_named fun rightName => .pure ?_)
    intro pool rightRefers leftRefers
    exact .cons (node.input_mem_operands 0) (fun _ => leftRefers) <|
      .cons (node.input_mem_operands 1) (fun _ => rightRefers) .nil
  split
  · exact builds_none
  split
  · split
    · exact .after ensures_note fun _ => builds_none
    · exact .after ensures_note fun _ => sum _ _
  · exact sum _ _

theorem builds_pad : Builds graph node (pad graph node) := by
  unfold pad
  refine .guarded (.throw _) ?_
  refine .after (.of_except fun _ _ _ => trivial) fun pads => ?_
  refine .after (.of_except fun _ _ _ => trivial) fun value => ?_
  refine .after (.of_except fun _ _ _ => trivial) fun padding => ?_
  refine builds_statement (ensures_named fun input => .pure ?_)
  exact fun _ refers => .cons (node.input_mem_operands 0) (fun _ => refers) .nil

/-- Whatever variant of an operator builds a layer, the layer serves its node. -/
theorem builds_ofOperator {op : String} {variant : Variant}
    (member : variant ∈ Variant.ofOperator op) : Builds graph node (variant.build graph node) := by
  have all : ∀ entry ∈ Variant.table, ∀ variant ∈ entry.2,
      Builds graph node (variant.build graph node) := by
    simp only [Variant.table, List.forall_mem_cons, List.not_mem_nil, false_imp_iff, implies_true,
      and_true]
    exact ⟨⟨builds_convolution2D, builds_convolution1D⟩, builds_fullyConnected,
      ⟨builds_maxPool _, builds_maxPool _⟩, ⟨builds_averagePool _, builds_averagePool _⟩,
      builds_globalPool rfl, builds_globalPool rfl, builds_activation _, builds_activation _,
      builds_activation _, builds_activation _, builds_clip, builds_responseNormalization,
      builds_batchNormalization, builds_concat, builds_copy, builds_copy, builds_add, builds_pad⟩
  rw [Variant.ofOperator] at member
  cases found : Variant.table.lookup op with
  | none => simp [found] at member
  | some variants =>
    rw [found] at member
    obtain ⟨before, after, same, -⟩ := List.lookup_eq_some_iff.mp found
    exact all (op, variants) (same ▸ List.mem_append_right _ (List.mem_cons_self ..)) variant member

end Building

/-! ## Selection -/

namespace Layer

open Building

variable {graph : Graph} {node : Node}

theorem ensures_selectAmong {variants : List Variant}
    (builds : ∀ variant ∈ variants, Builds graph node (variant.build graph node)) :
    Ensures graph (selectAmong graph node variants) fun pool layer =>
      Serves node pool layer := by
  induction variants with
  | nil => exact .throw _
  | cons variant rest ih =>
    obtain ⟨first, others⟩ := List.forall_mem_cons.mp builds
    refine .bind (.adapt first) ?_ fun built => ?_
    · intro layer? before after extended serves layer same
      exact (serves layer same).extend extended
    · split
      · next layer => exact .after (.report _) fun _ => .pure fun _ serves => serves layer rfl
      · exact .after (.report _) fun _ => (ih others).mono fun _ _ serves _ => serves

/-- The selected layer of a node serves it. -/
theorem ensures_select : Ensures graph (select graph node) fun pool layer =>
    Serves node pool layer :=
  ensures_selectAmong fun _ member => builds_ofOperator member

end Layer

end StaticNet
