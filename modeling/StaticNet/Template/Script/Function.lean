import StaticNet.Template.Script.Format
import StaticNet.Text.Escape

/-! # Functions of scripts

Beside the functions of the built-in templates, scripts have functions that print, compare, select
and combine items.
-/

namespace StaticNet.Template.Script

/-- The ways to compare two items. -/
inductive Comparison where
  | equal
  | different
  | less
  | atMost
  | greater
  | atLeast
deriving DecidableEq

/-- The functions of scripts. -/
inductive Builtin where
  | basic (function : Template.Function)
  | both
  | either
  | negation
  | call
  | index
  | slice
  | print
  | printLine
  | printFormat
  | markup
  | scriptString
  | query
  | compare (comparison : Comparison)
deriving DecidableEq

/-- What a function takes as an argument. -/
inductive Expected where
  | any
  | text
  | single
deriving DecidableEq

/-- The type that an argument must have, as messages name it. -/
def Expected.type : Expected → String
  | .any => "interface \x7b\x7d"
  | .text => "string"
  | .single => "float32"

/-- The arguments of a function: those that it needs, and whether more may follow. -/
structure Signature where
  needed : List Expected
  takesMore : Bool := false

/-- Why a function has no result. -/
inductive CallFailure where
  | unsupported (function type : String)
  | lengthOf (type : String)
  | indexOfNothing
  | sliceOfNothing
  | notIndexable (type : String)
  | notSliceable (type : String)
  | indexType (type : String)
  | indexNothing
  | keyType (type : String)
  | keyNothing
  | outOfRange (index : Int)
  | pastEnd (isText : Bool)
  | tooManyIndexes (count : Nat)
  | threeIndexes
  | descending (first second : Nat)
  | noComparison
  | incompatible
  | unordered
  | incomparable (type : String)
  | notCallable (written type : String)
  | callOfNothing
deriving DecidableEq

/-- The wording of a call failure. -/
def CallFailure.message : CallFailure → String
  | .unsupported function type => function ++ ": unsupported type " ++ type
  | .lengthOf type => "len of type " ++ type
  | .indexOfNothing => "index of untyped nil"
  | .sliceOfNothing => "slice of untyped nil"
  | .notIndexable type => "can't index item of type " ++ type
  | .notSliceable type => "can't slice item of type " ++ type
  | .indexType type => "cannot index slice/array with type " ++ type
  | .indexNothing => "cannot index slice/array with nil"
  | .keyType type => "value has type " ++ type ++ "; should be string"
  | .keyNothing => "value is nil; should be of type string"
  | .outOfRange index => "index out of range: " ++ toString index
  | .pastEnd isText =>
      "reflect: " ++ (if isText then "string" else "slice") ++ " index out of range"
  | .tooManyIndexes count => "too many slice indexes: " ++ toString count
  | .threeIndexes => "cannot 3-index slice a string"
  | .descending first second =>
      "invalid slice index: " ++ toString first ++ " > " ++ toString second
  | .noComparison => "missing argument for comparison"
  | .incompatible => "incompatible types for comparison"
  | .unordered => "invalid type for comparison"
  | .incomparable type => "non-comparable type " ++ type
  | .notCallable written type => "non-function " ++ written ++ " of type " ++ type
  | .callOfNothing => "call of nil"

namespace Builtin

/-- The functions by name. -/
def table : List (String × Builtin) :=
  [ ("join", .basic .join), ("ident", .basic .ident), ("float", .basic .float),
    ("quote", .basic .quote), ("len", .basic .len), ("and", .both), ("or", .either),
    ("not", .negation), ("call", .call), ("index", .index), ("slice", .slice), ("print", .print),
    ("println", .printLine), ("printf", .printFormat), ("html", .markup), ("js", .scriptString),
    ("urlquery", .query), ("eq", .compare .equal), ("ne", .compare .different),
    ("lt", .compare .less), ("le", .compare .atMost), ("gt", .compare .greater),
    ("ge", .compare .atLeast) ]

/-- The function of a name. -/
def ofName? (name : String) : Option Builtin := table.lookup name

/-- The arguments of a function. -/
def signature : Builtin → Signature
  | .basic .ident | .basic .quote => ⟨[.text], false⟩
  | .basic .float => ⟨[.single], false⟩
  | .basic _ | .negation => ⟨[.any], false⟩
  | .both | .either | .call | .index | .slice | .compare .equal => ⟨[.any], true⟩
  | .printFormat => ⟨[.text], true⟩
  | .print | .printLine | .markup | .scriptString | .query => ⟨[], true⟩
  | .compare _ => ⟨[.any, .any], false⟩

end Builtin

/-- The result of a function. -/
abbrev CallResult := Except CallFailure

/-- The position that an item gives in something of the given size. -/
def position (size : Nat) (index : Item) : CallResult Nat := do
  let n ← match index with
    | .value (.int n) => pure n.toInt
    | .byte byte => pure (byte.toNat : Int)
    | .nothing => throw .indexNothing
    | other => throw (.indexType other.type)
  if n < 0 ∨ (size : Int) < n then throw (.outOfRange n)
  return n.toNat

/-- An entry of a list. -/
def entryAt {α : Type} (isText : Bool) (build : α → Item) (entries : List α) (index : Item) :
    CallResult Item := do
  match entries[← position entries.length index]? with
  | some entry => return build entry
  | none => throw (.pastEnd isText)

/-- An entry of an item: a byte of a text, an entry of a list, or a parameter. A parameter that is
missing is nothing. -/
def select (parameters : Parameters) (item index : Item) : CallResult Item :=
  match item with
  | .value (.words ns) => entryAt false Item.int ns index
  | .value (.texts ss) => entryAt false Item.text ss index
  | .value .absent => entryAt false Item.int [] index
  | .value (.text s) => entryAt true Item.byte (Text.bytes s) index
  | .all =>
      match index with
      | .value (.text name) => .ok ((parameters.get? name).elim .nothing .value)
      | .nothing => .error .keyNothing
      | other => .error (.keyType other.type)
  | .nothing => .error .indexOfNothing
  | other => .error (.notIndexable other.type)

/-- The part of a list between positions. Without positions it is the whole list. -/
def part {α : Type} (entries : List α) (indexes : List Item) : CallResult (List α) := do
  let positions ← indexes.mapM (position entries.length)
  let first := positions.getD 0 0
  let second := positions.getD 1 entries.length
  if second < first then throw (.descending first second)
  if let some third := positions[2]? then
    if third < second then throw (.descending second third)
  return (entries.drop first).take (second - first)

/-- The part of an item between positions. -/
def excerpt (item : Item) (indexes : List Item) : CallResult Item := do
  if item = .nothing then throw .sliceOfNothing
  if 3 < indexes.length then throw (.tooManyIndexes indexes.length)
  match item with
  | .value (.text s) =>
      if indexes.length = 3 then throw .threeIndexes
      return .text (Text.ofBytes (← part (Text.bytes s) indexes))
  | .value (.words ns) => return .value (.words (← part ns indexes))
  | .value (.texts ss) => return .value (.texts (← part ss indexes))
  | .value .absent =>
      let _ ← part ([] : List Int64) indexes
      return item
  | other => throw (.notSliceable other.type)

/-- What can be compared by its order or its value. -/
inductive Comparable where
  | flag (b : Bool)
  | int (n : Int)
  | natural (n : Nat)
  | number (x : Binary64)
  | text (bytes : Bytes)

/-- An item as something that can be compared. -/
def comparable? : Item → Option Comparable
  | .value (.flag b) => some (.flag b)
  | .value (.int n) => some (.int n.toInt)
  | .value (.single x) => some (.number (.ofBinary32 x))
  | .value (.text s) => some (.text (Text.bytes s))
  | .number x => some (.number x)
  | .byte byte => some (.natural byte.toNat)
  | _ => none

/-- Whether an item is nothing or a missing list. -/
def isMissing (item : Item) : Bool := item = .nothing || item = .value .absent

/-- Whether two items are equal. Lists and all parameters can only be compared with what is
missing. -/
def areEqual (left right : Item) : CallResult Bool :=
  match comparable? left, comparable? right with
  | some (.flag a), some (.flag b) => .ok (a == b)
  | some (.int a), some (.int b) => .ok (a == b)
  | some (.natural a), some (.natural b) => .ok (a == b)
  | some (.int a), some (.natural b) => .ok (a == (b : Int))
  | some (.natural a), some (.int b) => .ok ((a : Int) == b)
  | some (.number a), some (.number b) => .ok (a.equals b)
  | some (.text a), some (.text b) => .ok (a == b)
  | some _, some _ => .error .incompatible
  | none, none =>
      if (left = .all) ≠ (right = .all) ∧ left ≠ .nothing ∧ right ≠ .nothing then
        .error (.incomparable right.type)
      else if isMissing left || isMissing right then .ok (isMissing left == isMissing right)
      else .error (.incomparable right.type)
  | _, _ => if left = .nothing || right = .nothing then .ok false else .error .incompatible

/-- Whether an item comes before another. -/
def isLess (left right : Item) : CallResult Bool :=
  match comparable? left, comparable? right with
  | some (.int a), some (.int b) => .ok (a < b)
  | some (.natural a), some (.natural b) => .ok (a < b)
  | some (.int a), some (.natural b) => .ok (a < (b : Int))
  | some (.natural a), some (.int b) => .ok ((a : Int) < b)
  | some (.number a), some (.number b) => .ok (a.less b)
  | some (.text a), some (.text b) => .ok (a < b)
  | some (.flag _), some (.flag _) | none, _ | _, none => .error .unordered
  | some _, some _ => .error .incompatible

/-- Whether a comparison holds between two items. -/
def Comparison.holds (comparison : Comparison) (left right : Item) : CallResult Bool := do
  let atMost : CallResult Bool := do
    if ← isLess left right then return true
    areEqual left right
  match comparison with
  | .equal => areEqual left right
  | .different => return !(← areEqual left right)
  | .less => isLess left right
  | .atMost => atMost
  | .greater => return !(← atMost)
  | .atLeast => return !(← isLess left right)

/-- Whether an item equals one of several others, up to the first that it equals. -/
def equalsAny (item : Item) : List Item → CallResult Bool
  | [] => .ok false
  | other :: rest => do
      if ← areEqual item other then return true
      equalsAny item rest

/-- The text that a function which escapes texts works on. -/
def operandText (parameters : Parameters) (items : List Item) : String :=
  match items with
  | [item] => item.text?.getD (item.render parameters)
  | items => Item.printed parameters items

/-- The result of a function of the built-in templates. -/
def applyBasic (parameters : Parameters) (function : Template.Function) (item : Item) :
    CallResult Item :=
  match item, function with
  | .all, .len => .ok (.nat parameters.size)
  | item, .len =>
      match item with
      | .value value => ((function.apply value).mapError fun _ => .lengthOf item.type).map .value
      | other => .error (.lengthOf other.type)
  | .value value, _ =>
      ((function.apply value).mapError fun _ => .unsupported function.name item.type).map .value
  | other, _ => .error (.unsupported function.name other.type)

/-- The result of a function that is given its arguments. -/
def Builtin.apply (parameters : Parameters) (builtin : Builtin) (arguments : List Item) :
    CallResult Item := do
  let first := arguments.headD .nothing
  let others := arguments.drop 1
  match builtin with
  | .basic function => applyBasic parameters function first
  | .both =>
      let decisive := arguments.find? fun item => !item.isTrue parameters
      return decisive.getD (arguments.getLastD .nothing)
  | .either =>
      let decisive := arguments.find? fun item => item.isTrue parameters
      return decisive.getD (arguments.getLastD .nothing)
  | .negation => return .flag (!first.isTrue parameters)
  | .call =>
      if first = .nothing then throw .callOfNothing
      else throw (.notCallable (first.render parameters) first.type)
  | .index =>
      if first = .nothing then throw .indexOfNothing
      others.foldlM (select parameters) first
  | .slice => excerpt first others
  | .print => return .text (Item.printed parameters arguments)
  | .printLine => return .text (Item.printedLine parameters arguments)
  | .printFormat => return .text (format parameters (first.text?.getD "") others)
  | .markup => return .text (Text.markup (operandText parameters arguments))
  | .scriptString => return .text (Text.scriptString (operandText parameters arguments))
  | .query => return .text (Text.query (operandText parameters arguments))
  | .compare .equal =>
      if others.isEmpty then throw .noComparison
      return .flag (← equalsAny first others)
  | .compare comparison => return .flag (← comparison.holds first (others.headD .nothing))

end StaticNet.Template.Script
