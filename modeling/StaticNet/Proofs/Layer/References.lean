import StaticNet.Layer.Selection
import StaticNet.Proofs.Dict
import StaticNet.Proofs.Storage.Assignment

/-! # Buffers that layers refer to

The parameters of a layer name buffers under a fixed set of keys. Whatever variant is selected for a
node, every buffer that its layer names is the buffer of one of the inputs of the node, of its first
output, or of the absent tensor.
-/

namespace StaticNet

/-- The buffers that a parameter names; an empty text names none. -/
def Template.Value.buffers (value : Template.Value) : List String :=
  (match value with
    | .text name => [name]
    | .texts names => names
    | _ => []).filter fun name => name ≠ ""

namespace Layer

/-- The parameters that name buffers. -/
def bufferKeys : List String :=
  ["input", "inputs", "output", "lhs", "rhs", "kernel", "bias", "gammas", "betas", "means",
    "variances"]

/-- The buffers that the parameters of a layer name. -/
def references (layer : Layer) : List String :=
  bufferKeys.flatMap fun key => ((layer.parameters.get? key).elim [] Template.Value.buffers)

end Layer

/-- The buffers that an object works with besides its input and its output. -/
def ObjectKind.buffers : ObjectKind → List String
  | .batchNormalization gammas betas means variances _ => [gammas, betas, means, variances]
  | .convolution _ kernel bias _ _ _ => [kernel, bias]
  | .fullyConnected kernel bias => [kernel, bias]
  | _ => []

/-- The buffers that a statement reads. -/
def StatementKind.buffers : StatementKind → List String
  | .concat inputs _ => inputs
  | .copy _ input => [input]
  | .add left right _ _ => [left, right]
  | .pad input _ _ => [input]

namespace Layer

theorem ne_empty_of_mem_references {layer : Layer} {name : String}
    (member : name ∈ layer.references) : name ≠ "" := by
  obtain ⟨key, -, named⟩ := List.mem_flatMap.mp member
  cases found : layer.parameters.get? key with
  | none => simp [found] at named
  | some value =>
    rw [found] at named
    exact of_decide_eq_true (List.mem_filter.mp named).2

/-- A buffer that a layer names stands in the parameters under one of the keys. -/
private theorem mem_references {pairs : List (String × Template.Value)} {layer : Layer}
    (parameters : layer.parameters = Dict.ofList pairs) {name : String}
    (member : name ∈ layer.references) :
    ∃ pair ∈ pairs.filter fun pair => decide (pair.1 ∈ bufferKeys), name ∈ pair.2.buffers := by
  obtain ⟨key, keyMember, named⟩ := List.mem_flatMap.mp member
  rw [parameters] at named
  cases found : (Dict.ofList pairs).get? key with
  | none => simp [found] at named
  | some value =>
    rw [found] at named
    exact ⟨(key, value), List.mem_filter.mpr
      ⟨Dict.mem_of_get?_ofList found, decide_eq_true keyMember⟩, named⟩

theorem of_mem_references_object {node identifier output input : String} {kind : ObjectKind}
    {name : String} (member : name ∈ references ⟨node, identifier, output, .object input kind⟩) :
    name ≠ "" ∧ name ∈ input :: output :: kind.buffers := by
  obtain ⟨pair, kept, named⟩ := mem_references rfl member
  obtain ⟨here, present⟩ := List.mem_filter.mp named
  refine ⟨of_decide_eq_true present, ?_⟩
  cases kind <;>
    simp [ObjectKind.parameters, LayerWindow.parameters, bufferKeys] at kept <;>
    grind [ObjectKind.buffers]

theorem of_mem_references_statement {node identifier output : String} {kind : StatementKind}
    {name : String} (member : name ∈ references ⟨node, identifier, output, .statement kind⟩) :
    name ≠ "" ∧ name ∈ output :: kind.buffers := by
  obtain ⟨pair, kept, named⟩ := mem_references rfl member
  obtain ⟨here, present⟩ := List.mem_filter.mp named
  refine ⟨of_decide_eq_true present, ?_⟩
  cases kind <;>
    simp [StatementKind.parameters, bufferKeys] at kept <;>
    grind [StatementKind.buffers]

end Layer

end StaticNet
