import Mathlib.Data.List.Basic
import StaticNet.Onnx.Conversion
import StaticNet.Proofs.Outcome

/-! # Where conversion trusts a declared kind

A parsed model is converted to a description, or it is refused, with one exception: an attribute
that is declared to be a tensor is taken to hold one. Where it holds none, and nothing before it is
refused, conversion ends in a trap. An attribute without a declared kind has no such gap, as its kind
is found by looking at the fields.
-/

namespace StaticNet.Onnx

namespace AttributeRecord

/-- An attribute is declared to be a tensor and holds none. -/
def LacksTensor (record : AttributeRecord) : Prop := record.kind = 4 ∧ record.tensor = none

private theorem kindOfCode?_eq_tensor_iff {code : Int32} :
    kindOfCode? code = some .tensor ↔ code = 4 := by
  unfold kindOfCode?
  grind

/-- An implied tensor is there. -/
private theorem isSome_of_impliedKind {record : AttributeRecord}
    (implied : record.impliedKind = .tensor) : record.tensor.isSome = true := by
  unfold impliedKind at implied
  grind

theorem lacksTensor_iff {record : AttributeRecord} :
    record.LacksTensor ↔ record.kind? = some .tensor ∧ record.tensor = none := by
  rw [LacksTensor, kind?]
  refine and_congr_left fun absent => ?_
  split
  · next undeclared =>
    refine ⟨fun declared => ?_, fun implied => ?_⟩
    · rw [undeclared] at declared
      cases declared
    · have held := isSome_of_impliedKind (Option.some.inj implied)
      rw [absent] at held
      cases held
  · exact kindOfCode?_eq_tensor_iff.symm

/-- Conversion of an attribute ends in a trap where its tensor is missing, and nowhere else. -/
theorem attribute?_eq_trap_iff {node : NodeRecord} {record : AttributeRecord} :
    record.attribute? node = .error .trap ↔ record.LacksTensor := by
  rw [lacksTensor_iff, attribute?]
  cases record.kind? with
  | none => simp
  | some kind =>
    cases kind with
    | tensor =>
      cases record.tensor with
      | none => simp
      | some tensor => cases read : tensor.tensor <;> simp [read]
    | _ => simp

end AttributeRecord

/-- An attribute of a node lacks its tensor, and all attributes before it can be converted. -/
def NodeRecord.Traps (node : NodeRecord) : Prop :=
  ∃ first record rest, node.attributes = first ++ record :: rest ∧
    (∀ earlier ∈ first, ∃ value, earlier.attribute? node = .ok value) ∧ record.LacksTensor

theorem nodeAttributes_eq_trap_iff {node : NodeRecord} :
    nodeAttributes node = .error .trap ↔ node.Traps := by
  rw [nodeAttributes, Outcome.bind_eq_error_iff]
  constructor
  · rintro (stopped | ⟨entries, -, impossible⟩)
    · obtain ⟨first, record, rest, same, earlier, stops⟩ := Outcome.mapM_eq_error_iff.mp stopped
      refine ⟨first, record, rest, same, fun other member => ?_, ?_⟩
      · obtain ⟨entry, passes⟩ := earlier other member
        obtain ⟨value, converted, -⟩ := Outcome.bind_eq_ok_iff.mp passes
        exact ⟨value, converted⟩
      · rcases Outcome.bind_eq_error_iff.mp stops with trapped | ⟨value, -, impossible⟩
        · exact AttributeRecord.attribute?_eq_trap_iff.mp trapped
        · cases impossible
    · cases impossible
  · rintro ⟨first, record, rest, same, earlier, lacks⟩
    refine .inl (Outcome.mapM_eq_error_iff.mpr ⟨first, record, rest, same, ?_, ?_⟩)
    · intro other member
      obtain ⟨value, converted⟩ := earlier other member
      exact ⟨_, Outcome.bind_eq_ok_iff.mpr ⟨value, converted, rfl⟩⟩
    · exact Outcome.bind_eq_error_iff.mpr
        (.inl (AttributeRecord.attribute?_eq_trap_iff.mpr lacks))

theorem nodeSpec_eq_trap_iff {node : NodeRecord} : nodeSpec node = .error .trap ↔ node.Traps := by
  rw [nodeSpec, Outcome.bind_eq_error_iff, nodeAttributes_eq_trap_iff]
  refine or_iff_left ?_
  rintro ⟨attributes, -, impossible⟩
  cases impossible

/-- Constant tensors are read or refused. -/
theorem initializers_ne_trap (graph : GraphRecord) : initializers graph ≠ .error .trap := by
  intro trapped
  rcases Outcome.bind_eq_error_iff.mp trapped with stopped | ⟨entries, -, impossible⟩
  · obtain ⟨first, record, rest, -, -, stops⟩ := Outcome.mapM_eq_error_iff.mp stopped
    split at stops <;> cases stops
  · cases impossible

/-- Conversion of a parsed model ends in a trap exactly when, with all constant tensors read, the
first node that is refused has an attribute which is declared to be a tensor and holds none, before
any attribute that is refused with an error. Whatever else a file leaves out or contradicts, the model
is converted or refused. -/
theorem graphSpec_eq_trap_iff {bytes : Bytes} {model : ModelRecord}
    (parsed : parse bytes = .ok model) :
    ∃ graph, model.graph = some graph ∧ (graphSpec model = .error .trap ↔
      (∃ constants, initializers graph = .ok constants) ∧
        ∃ before node after, inDependencyOrder graph.nodes = before ++ node :: after ∧
          (∀ earlier ∈ before, ∃ spec, nodeSpec earlier = .ok spec) ∧ node.Traps) := by
  obtain ⟨read, -, rest⟩ := Outcome.bind_eq_ok_iff.mp parsed
  obtain ⟨graphed, same⟩ := Outcome.of_refusal rest
  cases same
  obtain ⟨graph, held⟩ := Option.ne_none_iff_exists'.mp (by simpa using graphed)
  refine ⟨graph, held, ?_⟩
  rw [graphSpec, held]
  simp only [Outcome.bind_eq_error_iff, initializers_ne_trap, false_or,
    Outcome.mapM_eq_error_iff, nodeSpec_eq_trap_iff]
  constructor
  · rintro ⟨constants, known, stopped | ⟨nodes, -, impossible⟩⟩
    · exact ⟨⟨constants, known⟩, stopped⟩
    · cases impossible
  · rintro ⟨⟨constants, known⟩, stopped⟩
    exact ⟨constants, known, .inl stopped⟩

/-! ## A file that is parsed and not converted -/

/-- An attribute that is declared to be a tensor and leaves it out. -/
def bareAttribute : AttributeRecord := { name := "value", kind := 4 }

/-- A node with nothing but that attribute and an output. -/
def bareNode : NodeRecord :=
  { op := "Constant", outputs := ["y"], attributes := [bareAttribute] }

/-- A model of that node alone. -/
def bareModel : ModelRecord := { graph := some { nodes := [bareNode] } }

/-- The bytes of the model. -/
def bareBytes : Bytes :=
  [0x3a, 0x1b, 0x0a, 0x19, 0x12, 0x01, 0x79, 0x22, 0x08, 0x43, 0x6f, 0x6e, 0x73, 0x74, 0x61, 0x6e,
    0x74, 0x2a, 0x0a, 0x0a, 0x05, 0x76, 0x61, 0x6c, 0x75, 0x65, 0xa0, 0x01, 0x04]

/-- The file is parsed, and its conversion ends in a trap. -/
theorem graphSpec_eq_trap_bare :
    parse bareBytes = .ok bareModel ∧ graphSpec bareModel = .error .trap := by
  have parsed : parse bareBytes = .ok bareModel := by decide +kernel
  obtain ⟨graph, held, traps⟩ := graphSpec_eq_trap_iff parsed
  cases held
  have lacks : bareAttribute.LacksTensor := ⟨rfl, rfl⟩
  exact ⟨parsed, traps.mpr ⟨⟨.empty, rfl⟩, [], bareNode, [], by decide +kernel, by simp,
    [], bareAttribute, [], rfl, by simp, lacks⟩⟩

end StaticNet.Onnx
