import StaticNet.Onnx.Reader
import StaticNet.Proofs.Wire.Scanning

/-! # The schema of model files

What the fields of each message hold, as a table of their numbers, and when a payload holds that.
Fields with other numbers may hold anything. The tables are those of the messages that make up a
model; a value is named in one message and typed in three further ones inside it.
-/

namespace StaticNet.Onnx

open Wire

/-- What a field holds. -/
inductive Kind where
  | int
  | bytes
  | ints
  | floats
  | doubles
  | message (schema : List (Nat × Kind))

/-- The known fields of a message. -/
abbrev Schema := List (Nat × Kind)

/-- The numbers of the known fields. -/
def Schema.numbers (schema : Schema) : List Nat := schema.map Prod.fst

/-- Bytes that are whole integers. -/
inductive WholeVarints : Bytes → Prop
  | nil : WholeVarints []
  | cons {n : Nat} {first rest : Bytes} :
      SpellsVarint n first → WholeVarints rest → WholeVarints (first ++ rest)

/-- Payloads that hold what a field is to hold. Numbers of a repeated field stand alone or fill a
block; the fields of a message hold what its schema says, those that it does not know anything. -/
inductive Admits : Kind → Payload → Prop
  | int {n : Nat} : Admits .int (.varint n)
  | bytes {data : Bytes} : Admits .bytes (.bytes data)
  | oneInt {n : Nat} : Admits .ints (.varint n)
  | packedInts {data : Bytes} : WholeVarints data → Admits .ints (.bytes data)
  | oneFloat {n : Nat} : Admits .floats (.fixed32 n)
  | packedFloats {data : Bytes} : 4 ∣ data.length → Admits .floats (.bytes data)
  | oneDouble {n : Nat} : Admits .doubles (.fixed64 n)
  | packedDoubles {data : Bytes} : 8 ∣ data.length → Admits .doubles (.bytes data)
  | message {schema : List (Nat × Kind)} {fields : List Field} {data : Bytes} :
      SpellsMessage fields data →
      (∀ field ∈ fields, ∀ kind, (field.number, kind) ∈ schema → Admits kind field.payload) →
      Admits (.message schema) (.bytes data)

/-- A field holds what the schema says about its number. -/
def Schema.Fits (schema : Schema) (field : Field) : Prop :=
  ∀ kind, (field.number, kind) ∈ schema → Admits kind field.payload

/-- Bytes spell fields that fit a schema. -/
def Conforms (schema : Schema) (fields : List Field) (bytes : Bytes) : Prop :=
  SpellsMessage fields bytes ∧ ∀ field ∈ fields, schema.Fits field

theorem admits_message_iff {schema : Schema} {payload : Payload} :
    Admits (.message schema) payload ↔
      ∃ data fields, payload = .bytes data ∧ Conforms schema fields data := by
  constructor
  · rintro ⟨⟩
    next fields data spells fits => exact ⟨data, fields, rfl, spells, fits⟩
  · rintro ⟨data, fields, rfl, spells, fits⟩
    exact .message spells fits

/-! ## Fields that are not known -/

/-- Bytes with further fields put in: between fields, a field that the schema does not know, or
further fields inside a message that is held by a field. What follows may be anything. -/
inductive Padded : Schema → Bytes → Bytes → Prop
  | unknown {schema : Schema} {fields : List Field} {field : Field} {before extra after : Bytes} :
      SpellsMessage fields before → SpellsMessage [field] extra →
      field.number ∉ schema.numbers → Padded schema (before ++ after) (before ++ (extra ++ after))
  | within {schema inner : Schema} {fields : List Field} {number : Nat}
      {data padded before piece other after : Bytes} :
      SpellsMessage fields before → (number, .message inner) ∈ schema →
      Padded inner data padded → SpellsMessage [⟨number, .bytes data⟩] piece →
      SpellsMessage [⟨number, .bytes padded⟩] other →
      Padded schema (before ++ (piece ++ after)) (before ++ (other ++ after))
  | trans {schema : Schema} {bytes padded further : Bytes} :
      Padded schema bytes padded → Padded schema padded further → Padded schema bytes further

/-! ## The messages -/

def opsetSchema : Schema := [(1, .bytes), (2, .int)]

def dimensionSchema : Schema := [(1, .int), (2, .bytes)]

def shapeSchema : Schema := [(1, .message dimensionSchema)]

def tensorTypeSchema : Schema := [(1, .int), (2, .message shapeSchema)]

def typeSchema : Schema := [(1, .message tensorTypeSchema)]

def valueSchema : Schema := [(1, .bytes), (2, .message typeSchema)]

def tensorSchema : Schema :=
  [(1, .ints), (2, .int), (4, .floats), (5, .ints), (7, .ints), (8, .bytes), (9, .bytes),
    (10, .doubles)]

def attributeSchema : Schema :=
  [(1, .bytes), (2, .floats), (3, .int), (4, .bytes), (5, .message tensorSchema), (7, .floats),
    (8, .ints), (9, .bytes), (20, .int)]

def nodeSchema : Schema :=
  [(1, .bytes), (2, .bytes), (3, .bytes), (4, .bytes), (5, .message attributeSchema), (7, .bytes)]

def graphSchema : Schema :=
  [(1, .message nodeSchema), (2, .bytes), (5, .message tensorSchema), (11, .message valueSchema),
    (12, .message valueSchema), (13, .message valueSchema)]

/-- The number of the field that holds the graph of a model. -/
def graphNumber : Nat := 7

def modelSchema : Schema :=
  [(1, .int), (2, .bytes), (3, .bytes), (graphNumber, .message graphSchema),
    (8, .message opsetSchema)]

end StaticNet.Onnx
