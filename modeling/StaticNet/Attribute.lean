import StaticNet.Dict
import StaticNet.Tensor.Basic

/-! # Node attributes

An attribute holds one value of one kind. A reader of another kind finds that kind's zero value;
the default given by a caller counts only when the attribute is absent.
-/

namespace StaticNet

/-- The value of a node attribute. -/
inductive Attribute where
  | undefined
  | float (value : Binary32)
  | int (value : Int64)
  | text (value : String)
  | tensor (value : Option Tensor)
  | floats (values : List Binary32)
  | ints (values : List Int64)
  | texts (values : List String)
deriving DecidableEq

/-- The value as text. -/
def Attribute.render : Attribute → String
  | .undefined => ""
  | .float value => value.text
  | .int value => Text.word value
  | .text value => value
  | .tensor none => "tensor()"
  | .tensor (some value) => "tensor" ++ value.dims.text
  | .floats values => Text.bracketed (values.map Binary32.text)
  | .ints values => Text.words values
  | .texts values => Text.bracketed values

/-- The attributes of a node by name. -/
abbrev Attributes := Dict Attribute

namespace Attributes

/-- The integer attribute of a name. -/
def int (attributes : Attributes) (name : String) (default : Int64) : Int64 :=
  match attributes.get? name with
  | none => default
  | some (.int value) => value
  | some _ => 0

/-- The integer list attribute of a name; empty when absent. -/
def ints (attributes : Attributes) (name : String) : List Int64 :=
  match attributes.get? name with
  | some (.ints values) => values
  | _ => []

/-- The float list attribute of a name; empty when absent. -/
def floats (attributes : Attributes) (name : String) : List Binary32 :=
  match attributes.get? name with
  | some (.floats values) => values
  | _ => []

/-- The float attribute of a name. -/
def float (attributes : Attributes) (name : String) (default : Binary32) : Binary32 :=
  match attributes.get? name with
  | none => default
  | some (.float value) => value
  | some _ => ⟨0⟩

/-- The text attribute of a name. -/
def text (attributes : Attributes) (name default : String) : String :=
  match attributes.get? name with
  | none => default
  | some (.text value) => value
  | some _ => ""

/-- The tensor attribute of a name. -/
def tensor? (attributes : Attributes) (name : String) : Option Tensor :=
  match attributes.get? name with
  | some (.tensor value) => value
  | _ => none

/-- The attributes in name order, each rendered after its name and a separator. -/
def lines (attributes : Attributes) (separator : String) : List String :=
  attributes.sortedKeys.filterMap fun name =>
    (attributes.get? name).map fun value => name ++ separator ++ value.render

/-- All attributes on one line. -/
def format (attributes : Attributes) : String := ", ".intercalate (attributes.lines "=")

end Attributes

end StaticNet
