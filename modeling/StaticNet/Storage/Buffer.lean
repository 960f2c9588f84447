import StaticNet.Shape

/-! # Buffers

A buffer is the storage of one tensor. Elements take four bytes. The rank of the tensor falls into
one of a few classes, of which the last cannot be stored.
-/

namespace StaticNet

/-- Who owns the storage of a buffer: the network, or the caller that passes it in. -/
inductive Role where
  | managed
  | input
  | output
deriving DecidableEq

namespace Role

/-- The roles in order. -/
def all : List Role := [.managed, .input, .output]

/-- The name of a role. -/
def name : Role → String
  | .managed => "managed"
  | .input => "input"
  | .output => "output"

/-- The role of a name. -/
def ofName? (name : String) : Option Role := all.find? fun role => role.name = name

/-- The name of the role at a position, also where there is none. -/
def nameAt (position : Int) : String :=
  match if 0 ≤ position then all[position.toNat]? else none with
  | some role => role.name
  | none => "Role(" ++ toString position ++ ")"

/-- How the names of buffers with a role start. -/
def stem : Role → String
  | .managed => "buffer_"
  | .input => "input_"
  | .output => "output_"

end Role

/-- How tensors are stored, by rank. -/
inductive StorageForm where
  | vector
  | matrix
  | image
  | unsupported
deriving DecidableEq

namespace StorageForm

/-- The form of a rank. -/
def ofRank (rank : Nat) : StorageForm :=
  if rank ≤ 1 then .vector
  else if rank ≤ 3 then .matrix
  else if rank = 4 then .image
  else .unsupported

/-- The number of a form. -/
def code : StorageForm → Int
  | .vector => 0
  | .matrix => 1
  | .image => 2
  | .unsupported => -1

end StorageForm

/-- The bytes of one element. -/
def elementSize : Int64 := 4

/-- The storage of a tensor. -/
structure Buffer where
  tensor : String
  name : String
  shape : Option Shape
  byteSize : Int64
  role : Role
deriving DecidableEq

namespace Buffer

/-- The storage of a tensor of a given shape; an unknown shape takes no bytes. -/
def ofShape (tensor name : String) (shape : Option Shape) (role : Role) : Buffer :=
  { tensor, name, shape, role
    byteSize := match shape with
      | some dims => dims.elementCount * elementSize
      | none => 0 }

/-- The dimensions of the tensor; none when the shape is unknown. -/
def dims (buffer : Buffer) : Shape := buffer.shape.getD []

/-- The number of elements; zero when the shape is unknown. -/
def elementCount (buffer : Buffer) : Int64 :=
  match buffer.shape with
  | some dims => dims.elementCount
  | none => 0

/-- The form in which the buffer is stored. -/
def form (buffer : Buffer) : StorageForm := .ofRank buffer.dims.length

/-- Whether the network owns the storage. -/
def isOwned (buffer : Buffer) : Bool := buffer.role = .managed

/-- Name, shape and size of a buffer. -/
def text (buffer : Buffer) : String :=
  buffer.name ++ buffer.dims.text ++ " " ++ Text.word buffer.byteSize ++ "B"

end Buffer

end StaticNet
