/-! # Element types

The element types of constant tensors, with their names, sizes and codes in model documents.
-/

namespace StaticNet

/-- The type of the elements of a tensor. -/
inductive ElementType where
  | float32
  | float64
  | int32
  | int64
  | uint8
  | bool
deriving DecidableEq, Inhabited

namespace ElementType

/-- All element types. -/
def all : List ElementType := [.float32, .float64, .int32, .int64, .uint8, .bool]

/-- The name of the type. -/
def name : ElementType → String
  | .float32 => "float32"
  | .float64 => "float64"
  | .int32 => "int32"
  | .int64 => "int64"
  | .uint8 => "uint8"
  | .bool => "bool"

/-- The type of a name. -/
def ofName? (name : String) : Option ElementType := all.find? fun type => type.name = name

/-- The size of an element in bytes. -/
def size : ElementType → Nat
  | .float32 | .int32 => 4
  | .float64 | .int64 => 8
  | .uint8 | .bool => 1

/-- Whether elements are whole numbers. -/
def isInteger : ElementType → Bool
  | .int32 | .int64 | .uint8 | .bool => true
  | .float32 | .float64 => false

/-- The code of the type in a model document. -/
def code : ElementType → Int
  | .float32 => 1
  | .uint8 => 2
  | .int32 => 6
  | .int64 => 7
  | .bool => 9
  | .float64 => 11

/-- The type of a code. -/
def ofCode? (code : Int) : Option ElementType := all.find? fun type => type.code = code

theorem ofCode?_code (type : ElementType) : ofCode? type.code = some type := by
  cases type <;> rfl

theorem ofName?_name (type : ElementType) : ofName? type.name = some type := by
  cases type <;> rfl

end ElementType

end StaticNet
