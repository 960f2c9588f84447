import StaticNet.Template.Basic

/-! # What scripts compute with

Beside the values of parameters, a script computes with numbers of double precision, bytes of texts,
and all of its parameters together.
-/

namespace StaticNet.Template.Script

/-- What a script computes with. -/
inductive Item where
  | value (value : Value)
  | number (x : Binary64)
  | byte (byte : UInt8)
  | all
  | nothing
deriving DecidableEq

namespace Item

/-- An integer. -/
def int (n : Int64) : Item := .value (.int n)

/-- The integer of a natural. -/
def nat (n : Nat) : Item := int (Int64.ofNat n)

/-- A text. -/
def text (s : String) : Item := .value (.text s)

/-- A truth value. -/
def flag (b : Bool) : Item := .value (.flag b)

/-- The type of an item, as messages name it. -/
def type : Item → String
  | .value v => v.kind
  | .number _ => "float64"
  | .byte _ => "uint8"
  | .all => "codegen.Params"
  | .nothing => "<nil>"

/-- The text of an item. -/
def text? : Item → Option String
  | .value (.text s) => some s
  | _ => none

/-- The integer that an item is. -/
def integer? : Item → Option Int
  | .value (.int n) => some n.toInt
  | .byte b => some b.toNat
  | _ => none

/-- Whether an item is a text. -/
def isText (item : Item) : Bool := item.text?.isSome

/-- The parameters, in name order. -/
def entries (parameters : Parameters) : List (String × Value) :=
  parameters.sortedKeys.filterMap fun name =>
    (parameters.get? name).map fun value => (name, value)

/-- An item as it is printed. -/
def render (parameters : Parameters) : Item → String
  | .value v => v.render
  | .number x => x.text
  | .byte b => toString b.toNat
  | .all =>
      let entry (pair : String × Value) := pair.1 ++ ":" ++ pair.2.render
      "map" ++ Text.bracketed ((entries parameters).map entry)
  | .nothing => "<nil>"

/-- Whether an item counts as true: numbers other than zero, and what is not empty. -/
def isTrue (parameters : Parameters) : Item → Bool
  | .value v => v.isTrue
  | .number x => x.integer? ≠ some 0
  | .byte b => b ≠ 0
  | .all => 0 < parameters.size
  | .nothing => false

/-- Items one after the other. A blank stands between two of them if neither is a text. -/
def printed (parameters : Parameters) (items : List Item) : String :=
  let step (printed : String × Bool) (item : Item) : String × Bool :=
    let gap := if printed.2 || item.isText then "" else " "
    (printed.1 ++ gap ++ item.render parameters, item.isText)
  (items.foldl step ("", true)).1

/-- Items with a blank between them, and a line end. -/
def printedLine (parameters : Parameters) (items : List Item) : String :=
  " ".intercalate (items.map (render parameters)) ++ "\n"

end Item

end StaticNet.Template.Script
