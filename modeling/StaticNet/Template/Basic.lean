import StaticNet.Dict
import StaticNet.Text.Identifier
import StaticNet.Text.Lists
import StaticNet.Text.Quoted
import StaticNet.Text.Utf8

/-! # Text templates

A template is a list of pieces: literal text, emitted values, conditions and loops. Its parameters
are dynamic values, so evaluation fails when a parameter is missing or has the wrong kind.
-/

namespace StaticNet.Template

/-- A template parameter. `absent` is a missing list of words, which behaves as an empty one. -/
inductive Value where
  | int (n : Int64)
  | flag (b : Bool)
  | text (s : String)
  | single (x : Binary32)
  | words (ns : List Int64)
  | texts (ss : List String)
  | absent
deriving DecidableEq

/-- The parameters of a template by name. -/
abbrev Parameters := Dict Value

/-- Why a template has no text. -/
inductive Failure where
  | missingParameter (name : String)
  | unboundName (name : String)
  | unsupported (function kind : String)
  | lengthOf (kind : String)
  | wrongType (expected found : String)
  | notIterable (rendered : String)
deriving DecidableEq

/-- The wording of a failure. -/
def Failure.message : Failure → String
  | .missingParameter name => "map has no entry for key " ++ Text.quote name
  | .unboundName name => "undefined variable: $" ++ name
  | .unsupported function kind =>
      "error calling " ++ function ++ ": " ++ function ++ ": unsupported type " ++ kind
  | .lengthOf kind => "error calling len: len of type " ++ kind
  | .wrongType expected found =>
      "wrong type for value; expected " ++ expected ++ "; got " ++ found
  | .notIterable rendered => "range can't iterate over " ++ rendered

/-- A place in the text of a template: its line, counted from one, and the number of bytes before it
on that line. -/
structure Place where
  line : Nat := 1
  column : Nat := 0
deriving DecidableEq

/-- A failure, the part of the template that failed, and its place. -/
structure Fault where
  place : Place
  part : String
  cause : Failure
deriving DecidableEq

/-- The functions that templates may call. -/
inductive Function where
  | join
  | ident
  | float
  | quote
  | len
deriving DecidableEq

/-- What a template reads. -/
inductive Source where
  | parameter (name : String)
  | bound (name : String)
  | literal (s : String)
deriving DecidableEq

/-- A value to be computed: a source, or a function applied to one. -/
inductive Term where
  | plain (source : Source)
  | call (function : Function) (source : Source)
deriving DecidableEq

/-- Where a term and the source in it stand. -/
structure Spot where
  term : Place := {}
  source : Place := {}
deriving DecidableEq

/-- A piece of a template. A loop binds the position and the entry to two names. -/
inductive Piece where
  | text (s : String)
  | emit (term : Term) (spot : Spot := {})
  | branch (test : Term) (yes no : List Piece)
  | loop (index entry : String) (items : Term) (body : List Piece)

/-- The name of a function. -/
def Function.name : Function → String
  | .join => "join"
  | .ident => "ident"
  | .float => "float"
  | .quote => "quote"
  | .len => "len"

namespace Value

/-- The kind of a value, as messages name it. -/
def kind : Value → String
  | .int _ => "int"
  | .flag _ => "bool"
  | .text _ => "string"
  | .single _ => "float32"
  | .words _ | .absent => "[]int"
  | .texts _ => "[]string"

/-- The value as text. -/
def render : Value → String
  | .int n => Text.word n
  | .flag b => if b then "true" else "false"
  | .text s => s
  | .single x => x.text
  | .words ns => Text.words ns
  | .texts ss => Text.bracketed ss
  | .absent => "[]"

/-- Whether the value counts as true: numbers other than zero, and texts and lists that are not
empty. -/
def isTrue : Value → Bool
  | .int n => n ≠ 0
  | .flag b => b
  | .text s => s ≠ ""
  | .single x => !x.isZero
  | .words ns => !ns.isEmpty
  | .texts ss => !ss.isEmpty
  | .absent => false

/-- The entries that a loop runs over: those of a list, or the naturals below a number. -/
def entries : Value → Except Failure (List Value)
  | .words ns => .ok (ns.map .int)
  | .texts ss => .ok (ss.map .text)
  | .absent => .ok []
  | .int n => .ok ((List.range n.toInt.toNat).map fun entry => .int (Int64.ofNat entry))
  | value => .error (.notIterable value.render)

end Value

/-- The result of a function. -/
def Function.apply (function : Function) (value : Value) : Except Failure Value :=
  match function, value with
  | .join, .words ns => .ok (.text (Text.commaSeparated ns))
  | .join, .absent => .ok (.text "")
  | .ident, .text s => .ok (.text (Text.symbol s))
  | .float, .single x => .ok (.text (Text.floatLiteral x))
  | .quote, .text s => .ok (.text (Text.quote s))
  | .len, .words ns => .ok (.int (Int64.ofNat ns.length))
  | .len, .texts ss => .ok (.int (Int64.ofNat ss.length))
  | .len, .text s => .ok (.int (Int64.ofNat s.length))
  | .len, .absent => .ok (.int 0)
  | .join, value => .error (.unsupported function.name value.kind)
  | .len, value => .error (.lengthOf value.kind)
  | .ident, value | .quote, value => .error (.wrongType "string" value.kind)
  | .float, value => .error (.wrongType "float32" value.kind)

/-- A source as it is written. -/
def Source.written : Source → String
  | .parameter name => "." ++ name
  | .bound name => "$" ++ name
  | .literal s => Text.quote s

/-- The source that a term reads. -/
def Term.source : Term → Source
  | .plain source | .call _ source => source

/-- A term as it is written. -/
def Term.written : Term → String
  | .plain source => source.written
  | .call function source => function.name ++ " " ++ source.written

/-- A failure of a term. A function that does not support a value fails as a whole; any other
failure lies in the source. -/
def Term.fault (term : Term) (spot : Spot) (cause : Failure) : Fault :=
  match cause with
  | .unsupported _ _ | .lengthOf _ => ⟨spot.term, term.written, cause⟩
  | _ => ⟨spot.source, term.source.written, cause⟩

/-- What the pieces of a template may refer to. -/
structure Scope where
  parameters : Parameters
  bindings : Dict Value

/-- The value of a source. -/
def Source.eval (scope : Scope) : Source → Except Failure Value
  | .parameter name =>
      match scope.parameters.get? name with
      | some value => .ok value
      | none => .error (.missingParameter name)
  | .bound name =>
      match scope.bindings.get? name with
      | some value => .ok value
      | none => .error (.unboundName name)
  | .literal s => .ok (.text s)

/-- The value of a term. -/
def Term.eval (scope : Scope) : Term → Except Failure Value
  | .plain source => source.eval scope
  | .call function source => do function.apply (← source.eval scope)

/-- The scope of one round of a loop. -/
def Scope.bind (scope : Scope) (index entry : String) (position : Nat) (value : Value) : Scope :=
  let bindings := scope.bindings.insert index (.int (Int64.ofNat position))
  { scope with bindings := bindings.insert entry value }

/-- The value of a term, with the place of a failure. -/
def Term.evalAt (scope : Scope) (term : Term) (spot : Spot) : Except Fault Value :=
  (term.eval scope).mapError (term.fault spot)

mutual

/-- The text of a piece. -/
def Piece.eval (scope : Scope) : Piece → Except Fault String
  | .text s => .ok s
  | .emit term spot => do return (← term.evalAt scope spot).render
  | .branch test yes no => do
      if (← test.evalAt scope {}).isTrue then evalAll scope yes else evalAll scope no
  | .loop index entry items body => do
      let entries ← (← items.evalAt scope {}).entries.mapError (items.fault {})
      let rounds ← entries.zipIdx.mapM fun round =>
        evalAll (scope.bind index entry round.2 round.1) body
      return String.join rounds

/-- The text of pieces one after the other. -/
def evalAll (scope : Scope) : List Piece → Except Fault String
  | [] => .ok ""
  | piece :: rest => do
      let first ← piece.eval scope
      let others ← evalAll scope rest
      return first ++ others

end

/-- The text of a template for the given parameters. -/
def fill (pieces : List Piece) (parameters : Parameters) : Except Fault String :=
  evalAll ⟨parameters, .empty⟩ pieces

end StaticNet.Template
