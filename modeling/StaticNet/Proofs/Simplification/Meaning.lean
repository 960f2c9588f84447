import StaticNet.Proofs.Simplification.Bypassing

/-! # Graphs that mean the same values

While a graph is simplified, the values of the original remain values that it describes. Attaching
values that propagation knows keeps this, removing dispensable nodes keeps it, and so does
bypassing a node whose operator passes its first input on.
-/

namespace StaticNet

/-- The operators that are bypassed pass their first input on: two of them always, reshaping
whenever the target keeps every dimension. -/
structure Interpretation.PassesThrough (operators : Interpretation) : Prop where
  identity : ∀ attributes first rest, operators "Identity" attributes (some first :: rest) 0 = first
  dropout : ∀ attributes first rest, operators "Dropout" attributes (some first :: rest) 0 = first
  reshape : ∀ attributes first target rest, Shape.keptBy first.dims target.words = true →
    operators "Reshape" attributes (some first :: some target :: rest) 0 = first

/-- Knowledge is sound for values: a known value is the value, a known shape is its shape. -/
structure Propagation.Sound (propagation : Propagation) (values : String → Tensor) : Prop where
  exact : ∀ tensor value, (propagation.state tensor).value? = some value → values tensor = value
  shape : ∀ tensor dims, (propagation.state tensor).shape? = some dims → (values tensor).dims = dims

/-- Knowledge is sound when every recorded state is. -/
theorem Propagation.sound_of_states {propagation : Propagation} {values : String → Tensor}
    (states : ∀ entry ∈ propagation.states.entries,
      (entry.2.value?.all fun value => values entry.1 = value) = true ∧
        (entry.2.shape?.all fun dims => (values entry.1).dims = dims) = true) :
    propagation.Sound values := by
  have recorded : ∀ tensor, propagation.state tensor = .unknown ∨
      (tensor, propagation.state tensor) ∈ propagation.states.entries := by
    intro tensor
    rw [state]
    cases found : propagation.states.get? tensor with
    | none => exact .inl rfl
    | some knowledge =>
      obtain ⟨earlier, later, split, -⟩ := List.lookup_eq_some_iff.mp found
      rw [split]
      exact .inr (by simp)
  constructor
  · intro tensor value known
    rcases recorded tensor with unknown | member
    · rw [unknown] at known
      cases known
    · have checked := (states _ member).1
      rw [known] at checked
      exact of_decide_eq_true checked
  · intro tensor dims known
    rcases recorded tensor with unknown | member
    · rw [unknown] at known
      cases known
    · have checked := (states _ member).2
      rw [known] at checked
      exact of_decide_eq_true checked

namespace Graph

/-- The shapes that a graph declares or records are those of the values. -/
structure ShapesSound (graph : Graph) (values : String → Tensor) : Prop where
  declared : ∀ edge ∈ graph.inputs ++ graph.outputs, ∀ dims, edge.shape = some dims →
    (values edge.id).dims = dims
  recorded : ∀ tensor dims, graph.recordedShape? tensor = some (some dims) →
    (values tensor).dims = dims

/-- A graph still means given values: they are what it describes, and its shapes are theirs. -/
structure Means (operators : Interpretation) (given : String → Tensor) (values : String → Tensor)
    (graph : Graph) : Prop where
  solves : Solves operators given graph values
  acyclic : graph.Acyclic
  shapes : graph.ShapesSound values
  named : graph.isConstant "" = false

variable {operators : Interpretation} {given values : String → Tensor} {propagation : Propagation}
  {before after : Graph}

/-- A graph in which all derivations can be replayed in an acyclic one is acyclic. -/
theorem Acyclic.of_feeds (acyclic : before.Acyclic)
    (feeds : ∀ source target, after.Feeds source target →
      Relation.TransGen before.Feeds source target) : after.Acyclic :=
  fun tensor cycle => acyclic tensor (cycle.lift' id feeds)

/-! ## Folding -/

theorem Means.enrich (sound : propagation.Sound values)
    (nameless : (propagation.state "").value? = none)
    (enriched : Enriched propagation before after) (means : Means operators given values before) :
    Means operators given values after := by
  refine ⟨⟨?_, ?_, ?_, ?_⟩, means.acyclic.of_feeds ?_, ⟨?_, ?_⟩, ?_⟩
  · intro tensor value known
    rcases enriched.known tensor value known with earlier | learned
    · exact means.solves.constants tensor value earlier
    · exact sound.exact tensor value learned
  · intro tensor declared
    rw [isInput, enriched.inputs] at declared
    exact means.solves.inputs tensor declared
  · intro node member tensor wrote
    obtain ⟨old, present, same⟩ := enriched.live member
    have result : node.result operators values = old.result operators values :=
      Node.congr_strip same (fun node => node.result operators values) fun _ => rfl
    rw [result]
    exact means.solves.nodes old present tensor
      (Node.congr_strip same Node.writes (fun _ => rfl) ▸ wrote)
  · intro tensor used
    rcases means.solves.sources tensor (enriched.uses used) with
      known | ⟨node, member, wrote⟩ | same
    · exact .inl (enriched.kept tensor known)
    · obtain ⟨next, nextMember, sameBare⟩ := enriched.of_live member
      exact .inr (.inl ⟨next, nextMember,
        Node.congr_strip sameBare Node.writes (fun _ => rfl) ▸ wrote⟩)
    · exact .inr (.inr same)
  · rintro source target ⟨node, member, read, wrote⟩
    obtain ⟨old, present, same⟩ := enriched.live member
    exact .single ⟨old, present, Node.congr_strip same Node.reads (fun _ => rfl) ▸ read,
      Node.congr_strip same Node.writes (fun _ => rfl) ▸ wrote⟩
  · rw [enriched.inputs, enriched.outputs]
    exact means.shapes.declared
  · intro tensor dims recorded
    rw [recordedShape?, enriched.shapes] at recorded
    exact means.shapes.recorded tensor dims recorded
  · refine isConstant_eq_false_iff.mpr ?_
    cases found : after.constants.get? "" with
    | none => rfl
    | some value =>
      rcases enriched.known "" value found with earlier | learned
      · rw [isConstant_eq_false_iff.mp means.named] at earlier
        cases earlier
      · rw [nameless] at learned
        cases learned

theorem Means.shrink (shrinks : Shrinks before after)
    (means : Means operators given values before) : Means operators given values after := by
  refine ⟨⟨?_, ?_, ?_, ?_⟩, means.acyclic.of_feeds ?_, ⟨?_, ?_⟩, ?_⟩
  · rw [shrinks.constants]
    exact means.solves.constants
  · intro tensor declared
    rw [isInput, shrinks.inputs] at declared
    exact means.solves.inputs tensor declared
  · intro node member tensor wrote
    obtain ⟨old, present, alike⟩ := shrinks.live member
    rw [alike.result]
    exact means.solves.nodes old present tensor (alike.writes ▸ wrote)
  · intro tensor used
    rw [isConstant, shrinks.constants]
    rcases means.solves.sources tensor (shrinks.uses used) with known | ⟨node, member, wrote⟩ | same
    · exact .inl known
    · rcases shrinks.writers node member tensor wrote used with known | writer
      · exact .inl known
      · exact .inr (.inl writer)
    · exact .inr (.inr same)
  · rintro source target ⟨node, member, read, wrote⟩
    obtain ⟨old, present, alike⟩ := shrinks.live member
    exact .single ⟨old, present, alike.reads ▸ read, alike.writes ▸ wrote⟩
  · rw [shrinks.inputs, shrinks.outputs]
    exact means.shapes.declared
  · intro tensor dims recorded
    rw [recordedShape?, shrinks.shapes] at recorded
    exact means.shapes.recorded tensor dims recorded
  · rw [isConstant, shrinks.constants]
    exact means.named

/-! ## Bypassing -/

theorem mem_of_edgeNamed? {edges : List Edge} {tensor : String} {edge : Edge}
    (found : edgeNamed? edges tensor = some edge) : edge ∈ edges ∧ edge.id = tensor := by
  rw [edgeNamed?] at found
  have named := List.find?_some found
  exact ⟨List.mem_of_find?_eq_some found, of_decide_eq_true named⟩

theorem Means.dims_of_knownShape? {graph : Graph} (means : Means operators given values graph)
    {tensor : String} {dims : Shape} (known : graph.knownShape? tensor = some dims) :
    (values tensor).dims = dims := by
  rw [knownShape?] at known
  split at known
  · next stated =>
    cases known
    rw [statedShape?, Option.or_eq_some_iff] at stated
    rcases stated with input | ⟨-, output⟩
    · obtain ⟨edge, found, shape⟩ := Option.bind_eq_some_iff.mp input
      obtain ⟨member, rfl⟩ := mem_of_edgeNamed? found
      exact means.shapes.declared edge (List.mem_append_left _ member) dims shape
    · obtain ⟨edge, found, shape⟩ := Option.bind_eq_some_iff.mp output
      obtain ⟨member, rfl⟩ := mem_of_edgeNamed? found
      exact means.shapes.declared edge (List.mem_append_right _ member) dims shape
  · split at known
    · next value found =>
      rw [means.solves.constants tensor value found, Tensor.dims, known, Option.getD_some]
    · exact means.shapes.recorded tensor dims (Option.join_eq_some_iff.mp known)

/-- A node that keeps the shape of its input reads a target that keeps every dimension of it. -/
theorem Means.keptBy_of_keepsShape (sound : propagation.Sound values)
    (nameless : (propagation.state "").value? = none)
    (means : Means operators given values before) (shares : before.SharesConstants) {node : Node}
    (member : node ∈ before.live) (keeps : before.keepsShape propagation node = true) :
    node.input 1 ≠ "" ∧
      Shape.keptBy (values (node.input 0)).dims (values (node.input 1)).words = true := by
  unfold keepsShape at keeps
  dsimp only at keeps
  split at keeps
  · next dims target shape value =>
    have dimsEq : (values (node.input 0)).dims = dims := by
      split at shape
      · exact sound.shape _ dims shape
      · exact means.dims_of_knownShape? shape
    rcases Option.or_eq_some_iff.mp value with learned | ⟨-, attached⟩
    · refine ⟨?_, ?_⟩
      · intro absent
        rw [absent, nameless] at learned
        cases learned
      · rw [dimsEq, sound.exact _ target learned]
        exact keeps
    · have known := shares node member _ target attached
      refine ⟨?_, ?_⟩
      · intro absent
        rw [absent, isConstant_eq_false_iff.mp means.named] at known
        cases known
      · rw [dimsEq, means.solves.constants _ target known]
        exact keeps
  · cases keeps

/-- A bypassed node has the value of its first input. -/
theorem Bypasses.values_eq (passThrough : operators.PassesThrough)
    (sound : propagation.Sound values) (nameless : (propagation.state "").value? = none)
    (means : Means operators given values before) (shares : before.SharesConstants) {node : Node}
    (bypasses : Bypasses propagation node before after) (other : node.op ≠ "Unsqueeze") :
    values (node.output 0) = values (node.input 0) := by
  obtain ⟨written, position, -⟩ := Node.writes_of_first bypasses.output
  obtain ⟨rest, arguments⟩ := Node.arguments_of_first values bypasses.input
  rw [means.solves.nodes node bypasses.member _ written, Node.result, position]
  have passes := bypasses.passes
  simp only [isPassThrough, other, decide_false, Bool.false_or, Bool.or_eq_true,
    decide_eq_true_eq, Bool.and_eq_true] at passes
  rcases passes with (op | op) | ⟨op, keeps⟩
  · rw [op, arguments]
    exact passThrough.dropout ..
  · rw [op, arguments]
    exact passThrough.identity ..
  · obtain ⟨present, kept⟩ :=
      means.keptBy_of_keepsShape sound nameless shares bypasses.member keeps
    obtain ⟨others, both⟩ := Node.arguments_of_second values bypasses.input present
    rw [op, both]
    exact passThrough.reshape _ _ _ _ kept

/-- Redirecting a node to a tensor of the same value does not change what it computes. -/
private theorem result_redirect {old replacement : String} (present : old ≠ "")
    (replacementPresent : replacement ≠ "") (same : values old = values replacement)
    (value : Option Tensor) (node : Node) :
    (redirect old replacement value node).result operators values =
      node.result operators values := by
  obtain ⟨constants, redirected⟩ := redirect_eq old replacement value node
  have arguments : (redirect old replacement value node).arguments values =
      node.arguments values := by
    rw [redirected, Node.arguments, Node.arguments, List.map_map]
    refine List.map_congr_left fun tensor _ => ?_
    by_cases here : tensor = old
    · simp only [Function.comp, here, if_true, if_neg present, if_neg replacementPresent, same]
    · simp only [Function.comp, if_neg here]
  funext tensor
  rw [Node.result, arguments, redirected]
  rfl

theorem Bypasses.input_ne_output {node : Node} (bypasses : Bypasses propagation node before after)
    (acyclic : before.Acyclic) : node.input 0 ≠ node.output 0 := by
  intro same
  have feeds : before.Feeds (node.input 0) (node.output 0) := ⟨node, bypasses.member,
    Node.reads_of_first bypasses.input, (Node.writes_of_first bypasses.output).1⟩
  exact acyclic (node.output 0) (.single (same ▸ feeds))

/-- The bypassed output is no longer in use, and no other tensor has come into use. -/
theorem Bypasses.uses {node : Node} (bypasses : Bypasses propagation node before after)
    (acyclic : before.Acyclic) {tensor : String} (used : after.Uses tensor) :
    before.Uses tensor ∧ tensor ≠ node.output 0 := by
  obtain ⟨name, usedBefore, rfl⟩ := bypasses.uses_before used
  split
  · exact ⟨.inr ⟨node, bypasses.member, Node.reads_of_first bypasses.input⟩,
      bypasses.input_ne_output acyclic⟩
  · next different => exact ⟨usedBefore, different⟩

/-- What feeds a tensor after a bypass fed it before, perhaps through the bypassed node. -/
theorem Bypasses.feeds {node : Node} (bypasses : Bypasses propagation node before after)
    {source target : String} (feeds : after.Feeds source target) :
    Relation.TransGen before.Feeds source target := by
  obtain ⟨next, member, read, wrote⟩ := feeds
  obtain ⟨old, present, -, alike⟩ := bypasses.nodes next member
  rw [alike.reads, mem_reads_redirect bypasses.output bypasses.input] at read
  rw [alike.writes, writes_redirect] at wrote
  obtain ⟨name, nameRead, rfl⟩ := read
  split
  · next here =>
    have through : before.Feeds (node.input 0) (node.output 0) := ⟨node, bypasses.member,
      Node.reads_of_first bypasses.input, (Node.writes_of_first bypasses.output).1⟩
    exact .head through (.single ⟨old, present, here ▸ nameRead, wrote⟩)
  · exact .single ⟨old, present, nameRead, wrote⟩

/-- The declared outputs are renamed to tensors of the same value, and so of the same shape. -/
theorem Bypasses.shapesSound {node : Node} (bypasses : Bypasses propagation node before after)
    (same : values (node.output 0) = values (node.input 0)) (shapes : before.ShapesSound values) :
    after.ShapesSound values := by
  constructor
  · intro edge listed dims shape
    rw [bypasses.inputs, bypasses.outputs] at listed
    rcases List.mem_append.mp listed with input | output
    · exact shapes.declared edge (List.mem_append_left _ input) dims shape
    · obtain ⟨old, oldListed, rfl⟩ := List.mem_map.mp output
      have declared := shapes.declared old (List.mem_append_right _ oldListed) dims
      split at shape
      · next here =>
        rw [if_pos here, ← same, ← here]
        exact declared shape
      · next elsewhere =>
        rw [if_neg elsewhere]
        exact declared shape
  · intro tensor dims recorded
    rw [recordedShape?, bypasses.shapes] at recorded
    exact shapes.recorded tensor dims recorded

/-- Bypassing a node replaces one name by another of the same value. -/
theorem Means.bypass (passThrough : operators.PassesThrough) (sound : propagation.Sound values)
    (nameless : (propagation.state "").value? = none)
    (means : Means operators given values before) (shares : before.SharesConstants) {node : Node}
    (bypasses : Bypasses propagation node before after) (other : node.op ≠ "Unsqueeze") :
    Means operators given values after := by
  have same := bypasses.values_eq passThrough sound nameless means shares other
  refine ⟨⟨?_, ?_, ?_, ?_⟩, means.acyclic.of_feeds fun _ _ feeds => bypasses.feeds feeds,
    bypasses.shapesSound same means.shapes, ?_⟩
  · rw [bypasses.constants]
    exact means.solves.constants
  · intro tensor declared
    rw [isInput, bypasses.inputs] at declared
    exact means.solves.inputs tensor declared
  · intro next member tensor wrote
    obtain ⟨old, present, -, alike⟩ := bypasses.nodes next member
    rw [alike.writes, writes_redirect] at wrote
    rw [alike.result, result_redirect bypasses.output bypasses.input same]
    exact means.solves.nodes old present tensor wrote
  · intro tensor used
    obtain ⟨usedBefore, different⟩ := bypasses.uses means.acyclic used
    rw [isConstant, bypasses.constants]
    rcases means.solves.sources tensor usedBefore with known | ⟨writer, member, wrote⟩ | given
    · exact .inl known
    · exact .inr (.inl (bypasses.writer_kept usedBefore different ⟨_, member, wrote⟩))
    · exact .inr (.inr given)
  · rw [isConstant, bypasses.constants]
    exact means.named

/-- Bypassing a node keeps the values of the declared outputs. -/
theorem Bypasses.map_outputs {node : Node} (bypasses : Bypasses propagation node before after)
    (same : values (node.output 0) = values (node.input 0)) :
    (after.outputs.map fun edge => values edge.id) =
      before.outputs.map fun edge => values edge.id := by
  rw [bypasses.outputs, List.map_map]
  refine List.map_congr_left fun edge _ => ?_
  by_cases here : edge.id = node.output 0
  · simp only [Function.comp, here, if_true, same]
  · simp only [Function.comp, if_neg here]

end Graph

end StaticNet
