import StaticNet.Onnx.Conversion
import StaticNet.Proofs.Onnx.Payload
import StaticNet.Proofs.Outcome
import StaticNet.Proofs.Tensor.Access

/-! # Constant tensors of a model

A record holds the elements of a constant tensor in its raw bytes or in the list for their type, and
both are read as the same tensor. Whether that tensor is well-formed depends on the dimensions
alone: the number of elements is only compared with their machine product, and no dimension is
looked at by itself.
-/

namespace StaticNet

theorem ElementType.size_pos (type : ElementType) : 0 < type.size := by cases type <;> decide

namespace Onnx

/-! ## Elements and their records -/

/-- The elements of a constant tensor, as values of their type. -/
inductive Elements where
  | float32 (values : List Binary32)
  | float64 (values : List Binary64)
  | int32 (values : List Int32)
  | int64 (values : List Int64)
  | uint8 (values : List UInt8)
  | bool (values : List Bool)

namespace Elements

def type : Elements → ElementType
  | .float32 _ => .float32
  | .float64 _ => .float64
  | .int32 _ => .int32
  | .int64 _ => .int64
  | .uint8 _ => .uint8
  | .bool _ => .bool

/-- The elements as the numbers that a tensor holds. -/
def numbers : Elements → List Binary64
  | .float32 values => values.map .ofBinary32
  | .float64 values => values
  | .int32 values => values.map fun n => .ofInt n.toInt
  | .int64 values => values.map fun n => .ofInt n.toInt
  | .uint8 values => values.map fun n => .ofInt n.toNat
  | .bool values => values.map fun truth => .ofInt truth.toInt

/-- The elements one behind the other, each with its least significant byte first. -/
def bytes : Elements → Bytes
  | .float32 values => values.flatMap floatBytes
  | .float64 values => values.flatMap doubleBytes
  | .int32 values => values.flatMap fun n => Bytes.ofWord n.toUInt32
  | .int64 values => values.flatMap fun n => Bytes.ofNat 8 n.toUInt64.toNat
  | .uint8 values => values.flatMap fun n => [n]
  | .bool values => values.flatMap fun truth => [truth.toUInt8]

variable (elements : Elements) (name : String) (dims : List Int64)

/-- A record of the type of the elements, without any. -/
def emptyRecord : TensorRecord :=
  { name, elementCode := Int32.ofInt elements.type.code, dims }

/-- The record that holds the elements in its raw bytes. -/
def inBytes : TensorRecord := { elements.emptyRecord name dims with raw := elements.bytes }

/-- The record that holds the elements in the list for their type. -/
def inLists : TensorRecord :=
  let empty := elements.emptyRecord name dims
  match elements with
  | .float32 values => { empty with floats := values }
  | .float64 values => { empty with doubles := values }
  | .int32 values => { empty with words32 := values }
  | .int64 values => { empty with words64 := values }
  | .uint8 values => { empty with words32 := values.map fun n => Int32.ofNat n.toNat }
  | .bool values => { empty with words32 := values.map fun truth => Int32.ofInt truth.toInt }

@[simp] theorem dims_inLists : (elements.inLists name dims).dims = dims := by cases elements <;> rfl

@[simp] theorem name_inLists : (elements.inLists name dims).name = name := by cases elements <;> rfl

theorem elementCode_inLists :
    (elements.inLists name dims).elementCode = Int32.ofInt elements.type.code := by
  cases elements <;> rfl

/-- What a record of the elements stands for: the tensor that they fill, if there are as many of
them as the machine product of the dimensions says. -/
def tensor : Except TensorDataError Tensor :=
  if Int64.ofNat elements.numbers.length = Shape.elementCount dims then
    .ok { shape := some dims, type := elements.type, data := elements.numbers }
  else .error (.valueCount name elements.numbers.length dims)

end Elements

/-! ## Numbers from bytes -/

section Bytes

variable {α : Type} (type : ElementType) {encode : α → Bytes} {number : α → Binary64}

theorem rawNumbers_flatMap (full : ∀ value, (encode value).length = type.size)
    (reads : ∀ value, rawNumber type (encode value) = number value) (values : List α) :
    rawNumbers type (values.flatMap encode) = .ok (values.map number) := by
  have whole : (values.flatMap encode).length % type.size = 0 := by
    rw [Bytes.length_flatMap_encode full, Nat.mul_mod_right]
  rw [rawNumbers, if_neg (not_not.mpr whole), Bytes.blocks_flatMap type.size_pos full, List.map_map]
  simp only [Function.comp_def, reads]

theorem rawNumbers_nil : rawNumbers type [] = .ok [] :=
  @rawNumbers_flatMap Empty type nofun nofun nofun nofun []

private theorem bmod_toUInt32 (n : Int32) :
    (n.toUInt32.toNat : Int).bmod UInt32.size = n.toInt :=
  (BitVec.toInt_eq_toNat_bmod n.toBitVec).symm

private theorem bmod_toUInt64 (n : Int64) :
    (n.toUInt64.toNat : Int).bmod UInt64.size = n.toInt :=
  (BitVec.toInt_eq_toNat_bmod n.toBitVec).symm

/-- The raw bytes of elements are read as their numbers. -/
theorem rawNumbers_bytes (elements : Elements) :
    rawNumbers elements.type elements.bytes = .ok elements.numbers := by
  cases elements with
  | float32 values =>
    refine rawNumbers_flatMap .float32 length_floatBytes (fun value => ?_) values
    rw [rawNumber, ofPattern_floatBytes]
  | float64 values =>
    have read := rawNumbers_flatMap .float64 length_doubleBytes ofPattern_doubleBytes values
    rwa [List.map_id'] at read
  | int32 values =>
    refine rawNumbers_flatMap .int32 (fun n => Bytes.length_ofWord _) (fun n => ?_) values
    rw [rawNumber, Bytes.toNat_ofWord, bmod_toUInt32]
  | int64 values =>
    have full (n : Int64) : (Bytes.ofNat 8 n.toUInt64.toNat).length = ElementType.size .int64 :=
      Bytes.length_ofNat ..
    refine rawNumbers_flatMap .int64 full (fun n => ?_) values
    rw [rawNumber, Bytes.toNat_ofLong, bmod_toUInt64]
  | uint8 values =>
    refine rawNumbers_flatMap .uint8 (fun n => rfl) (fun n => ?_) values
    rw [rawNumber, Bytes.toNat, Bytes.toNat, Nat.mul_zero, Nat.add_zero]
  | bool values =>
    refine rawNumbers_flatMap .bool (fun truth => rfl) (fun truth => ?_) values
    cases truth <;> rfl

end Bytes

/-! ## Numbers from records -/

section Records

variable (elements : Elements) (name : String) (dims : List Int64)

theorem numbers_inBytes :
    (elements.inBytes name dims).numbers elements.type = .ok elements.numbers := by
  have read := rawNumbers_bytes elements
  cases raw : elements.bytes with
  | nil =>
    -- Without raw bytes the lists are looked at, which are empty, too.
    rw [raw, rawNumbers_nil] at read
    rw [← read, TensorRecord.numbers, Elements.inBytes, raw]
    rfl
  | cons byte rest => simp [TensorRecord.numbers, Elements.inBytes, raw, ← read]

theorem numbers_words32 {record : TensorRecord} (type : ElementType) (raw : record.raw = [])
    (floats : record.floats = []) (words64 : record.words64 = []) (doubles : record.doubles = []) :
    record.numbers type = .ok (record.words32.map fun n => .ofInt n.toInt) := by
  rw [TensorRecord.numbers, raw, floats, words64, doubles]
  cases record.words32 <;> rfl

private theorem toInt_small (n : UInt8) : (Int32.ofNat n.toNat).toInt = n.toNat :=
  Int32.toInt_ofNat_of_lt (Nat.lt_trans n.toNat_lt (by decide))

theorem numbers_inLists :
    (elements.inLists name dims).numbers elements.type = .ok elements.numbers := by
  cases elements with
  | float32 values => cases values <;> rfl
  | float64 values => cases values <;> rfl
  | int32 values => cases values <;> rfl
  | int64 values => cases values <;> rfl
  | uint8 values =>
    rw [numbers_words32 _ rfl rfl rfl rfl]
    simp only [Elements.inLists, Elements.numbers, List.map_map, Function.comp_def, toInt_small]
  | bool values =>
    have word (truth : Bool) : (Int32.ofInt truth.toInt).toInt = truth.toInt := by
      cases truth <;> rfl
    rw [numbers_words32 _ rfl rfl rfl rfl]
    simp only [Elements.inLists, Elements.numbers, List.map_map, Function.comp_def, word]

theorem ofCode?_elementCode (type : ElementType) :
    ElementType.ofCode? (Int32.ofInt type.code).toInt = some type := by
  cases type <;> rfl

end Records

/-! ## Tensors from records -/

namespace TensorRecord

variable {record : TensorRecord} {value : Tensor}

theorem tensor_of_numbers {type : ElementType} {data : List Binary64}
    (code : ElementType.ofCode? record.elementCode.toInt = some type)
    (read : record.numbers type = .ok data) :
    record.tensor =
      if Int64.ofNat data.length = Shape.elementCount record.dims then
        .ok { shape := some record.dims, type, data }
      else .error (.valueCount record.name data.length record.dims) := by
  rw [TensorRecord.tensor, code]
  simp only [read, bind, Except.bind, Tensor.ofData, Option.getD_some]
  split <;> rfl

theorem tensor_eq_ok_iff : record.tensor = .ok value ↔ ∃ type data,
    ElementType.ofCode? record.elementCode.toInt = some type ∧ record.numbers type = .ok data ∧
      Int64.ofNat data.length = Shape.elementCount record.dims ∧
        value = { shape := some record.dims, type, data } := by
  constructor
  · intro done
    cases code : ElementType.ofCode? record.elementCode.toInt with
    | none => simp [TensorRecord.tensor, code] at done
    | some type =>
      cases read : record.numbers type with
      | error cause => simp [TensorRecord.tensor, code, read, bind, Except.bind] at done
      | ok data =>
        rw [tensor_of_numbers code read] at done
        split at done
        · next count =>
          cases done
          exact ⟨type, data, rfl, read, count, rfl⟩
        · cases done
  · rintro ⟨type, data, code, read, count, rfl⟩
    rw [tensor_of_numbers code read, if_pos count]

/-- A constant tensor has the dimensions that its record states. It is well-formed if and only if
none of them is negative and their exact product fits a machine word. -/
theorem wellFormed_tensor_iff (done : record.tensor = .ok value)
    (small : value.data.length < 2 ^ 63) :
    value.dims = record.dims ∧
      (value.WellFormed ↔
        (∀ dim ∈ record.dims, 0 ≤ dim) ∧ Shape.exactCount record.dims < 2 ^ 63) := by
  obtain ⟨type, data, -, -, count, rfl⟩ := tensor_eq_ok_iff.mp done
  refine ⟨rfl, ?_⟩
  have length : (data.length : Int) = (Shape.elementCount record.dims).toInt := by
    rw [← count, Int64.toInt_ofNat_of_lt small]
  constructor
  · rintro ⟨natural, filled⟩
    exact ⟨natural, (Shape.toInt_elementCount_eq_iff natural).mp (length.symm.trans filled)⟩
  · rintro ⟨natural, fits⟩
    exact ⟨natural, length.trans ((Shape.toInt_elementCount_eq_iff natural).mpr fits)⟩

/-- One element for two negative dimensions. -/
def negativeSquare : TensorRecord :=
  { elementCode := 1, dims := [-1, -1], floats := [⟨0x3f800000⟩] }

/-- No element for more of them than a machine word counts. -/
def emptySquare : TensorRecord := { elementCode := 1, dims := [4294967296, 4294967296] }

/-- Neither negative dimensions nor a product that wraps around to zero are refused. -/
theorem not_wellFormed_square :
    (∃ value, negativeSquare.tensor = .ok value ∧ ¬ value.WellFormed) ∧
      ∃ value, emptySquare.tensor = .ok value ∧ ¬ value.WellFormed := by
  refine ⟨⟨_, rfl, fun wellFormed => ?_⟩, ⟨_, rfl, fun wellFormed => ?_⟩⟩
  · have law := (@wellFormed_tensor_iff negativeSquare _ rfl (by decide)).2.mp wellFormed
    exact absurd (law.1 (-1) (List.mem_cons_self ..)) (by decide)
  · have law := (@wellFormed_tensor_iff emptySquare _ rfl (by decide)).2.mp wellFormed
    exact absurd law.2 (by decide)

end TensorRecord

/-- Elements in raw bytes and elements in the list for their type have the same outcome: the tensor
that they fill, or the same refusal of their number. -/
theorem tensor_inBytes (elements : Elements) (name : String) (dims : List Int64) :
    (elements.inBytes name dims).tensor = (elements.inLists name dims).tensor ∧
      (elements.inLists name dims).tensor = elements.tensor name dims := by
  have raw : (elements.inBytes name dims).tensor = elements.tensor name dims :=
    TensorRecord.tensor_of_numbers (ofCode?_elementCode _) (numbers_inBytes elements name dims)
  have listed : (elements.inLists name dims).tensor = elements.tensor name dims := by
    have code : ElementType.ofCode? (elements.inLists name dims).elementCode.toInt =
        some elements.type := by
      rw [Elements.elementCode_inLists, ofCode?_elementCode]
    rw [TensorRecord.tensor_of_numbers code (numbers_inLists elements name dims), Elements.tensor,
      Elements.dims_inLists, Elements.name_inLists]
  exact ⟨raw.trans listed.symm, listed⟩

end Onnx

end StaticNet
