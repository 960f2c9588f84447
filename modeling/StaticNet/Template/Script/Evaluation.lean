import StaticNet.Template.Script.Parser

/-! # Running scripts

A script is run on its parameters. The subject of a piece is what a lone dot stands for: all
parameters at first, the entry of a loop inside of it, and what a part was called with inside of
that.
-/

namespace StaticNet.Template.Script

/-- Why a script has no text. -/
inductive Failure where
  | missingParameter (name : String)
  | noData (name : String)
  | noField (name type : String)
  | notMethod (name : String)
  | notFunction (written : String)
  | nilCommand
  | overflow (written : String)
  | unfit (what written : String)
  | nilFor (type : String)
  | invalidValue (type : String)
  | wrongType (expected found : String)
  | argumentCount (name : String) (wanted given : Nat)
  | argumentLeast (name : String) (least given : Nat)
  | calling (name : String) (cause : CallFailure)
  | notIterable (rendered : String)
  | loopVariables (rendered : String)
  | undefinedVariable (name : String)
  | undefinedFunction (name : String)
  | undefinedPart (name : String)
  | tooDeep (limit : Nat)
deriving DecidableEq

/-- The wording of a failure. -/
def Failure.message : Failure → String
  | .missingParameter name => "map has no entry for key " ++ Text.quote name
  | .noData name => "nil data; no entry for key " ++ Text.quote name
  | .noField name type => "can't evaluate field " ++ name ++ " in type " ++ type
  | .notMethod name => name ++ " is not a method but has arguments"
  | .notFunction written => "can't give argument to non-function " ++ written
  | .nilCommand => "nil is not a command"
  | .overflow written => written ++ " overflows int"
  | .unfit what written => "expected " ++ what ++ "; found " ++ written
  | .nilFor type => "cannot assign nil to " ++ type
  | .invalidValue type => "invalid value; expected " ++ type
  | .wrongType expected found =>
      "wrong type for value; expected " ++ expected ++ "; got " ++ found
  | .argumentCount name wanted given =>
      "wrong number of args for " ++ name ++ ": want " ++ toString wanted ++ " got " ++
        toString given
  | .argumentLeast name least given =>
      "wrong number of args for " ++ name ++ ": want at least " ++ toString least ++ " got " ++
        toString given
  | .calling name cause => "error calling " ++ name ++ ": " ++ cause.message
  | .notIterable rendered => "range can't iterate over " ++ rendered
  | .loopVariables rendered =>
      "can't use " ++ rendered ++ " to iterate over more than one variable"
  | .undefinedVariable name => "undefined variable: " ++ name
  | .undefinedFunction name => Text.quote name ++ " is not a defined function"
  | .undefinedPart name => "template " ++ Text.quote name ++ " not defined"
  | .tooDeep limit => "exceeded maximum template depth (" ++ toString limit ++ ")"

/-- A failure, the part of the script that was run, and where in it and at what it failed. -/
structure Fault where
  executing : String
  place : Place
  part : String
  cause : Failure
deriving DecidableEq

/-- What interrupts a run: a failure, or an action that ends a loop or its round. -/
inductive Interrupt where
  | fault (fault : Fault)
  | stop
  | next

/-- A run in progress: the variables, the last one first, the texts that were put out, the last one
first, and the place that was reached, with what stands there. -/
structure Progress where
  bindings : List (String × Item)
  output : List String
  spot : Place × String

/-- A run of a script. What was done before an interruption stays done. -/
abbrev Run := ExceptT Interrupt (StateM Progress)

/-- What a run refers to: the parameters, the name of the part that is run, whether a part is
defined, and how one is called, unless calls are nested too deeply already. -/
structure Frame where
  parameters : Parameters
  executing : String
  defines : String → Bool
  call : Option (String → Item → Run Unit)

namespace Run

/-- Put out a text. -/
def emit (s : String) : Run Unit :=
  modify fun progress => { progress with output := s :: progress.output }

/-- Note the place that was reached. -/
def reach (place : Place) (written : String) : Run Unit :=
  modify fun progress => { progress with spot := (place, written) }

/-- Note the term that was reached. -/
def reachTerm (term : Term) : Run Unit := reach term.place (term.written false)

/-- Fail at the place that was reached. -/
def fail {α : Type} (frame : Frame) (cause : Failure) : Run α := do
  let (place, written) := (← get).spot
  throw (.fault ⟨frame.executing, place, written, cause⟩)

/-- Declare a variable. -/
def push (name : String) (item : Item) : Run Unit :=
  modify fun progress => { progress with bindings := (name, item) :: progress.bindings }

/-- The number of variables. -/
def mark : Run Nat := do return (← get).bindings.length

/-- Forget the variables beyond a number. -/
def pop (count : Nat) : Run Unit :=
  modify fun progress =>
    { progress with bindings := progress.bindings.drop (progress.bindings.length - count) }

/-- Change a variable by its position. -/
def setAt (position : Nat) (item : Item) : Run Unit :=
  modify fun progress =>
    { progress with
      bindings := progress.bindings.modify position fun entry => (entry.1, item) }

/-- Assign to a variable. -/
def assign (frame : Frame) (name : String) (item : Item) : Run Unit := do
  match (← get).bindings.findIdx? fun entry => entry.1 = name with
  | some position => setAt position item
  | none => fail frame (.undefinedVariable name)

/-- The value of a variable. -/
def valueOf (frame : Frame) (name : String) : Run Item := do
  match (← get).bindings.lookup name with
  | some item => return item
  | none => fail frame (.undefinedVariable name)

/-- Run with variables that are forgotten afterwards. -/
def inScope {α : Type} (run : Run α) : Run α := do
  let count ← mark
  let result ← run
  pop count
  return result

end Run

open Run

/-- The field of an item. Only all parameters together have fields; what is read from them has no
type of its own. -/
def readField (frame : Frame) (isInner hasArguments : Bool) (item : Item) (name : String) :
    Run Item :=
  match item with
  | .nothing => fail frame (.noData name)
  | .all => do
      if hasArguments then fail frame (.notMethod name)
      match frame.parameters.get? name with
      | some value => return .value value
      | none => fail frame (.missingParameter name)
  | other => fail frame (.noField name (if isInner then Expected.any.type else other.type))

/-- The fields of an item, each read from the one before. Arguments are meant for the last one. -/
def readFields (frame : Frame) (hasArguments : Bool) : Bool → Item → List String → Run Item
  | _, item, [] => return item
  | isInner, item, name :: rest => do
      let field ← readField frame isInner (hasArguments && rest.isEmpty) item name
      readFields frame hasArguments true field rest

/-- The value of a number. -/
def numberItem (frame : Frame) (literal : NumberLiteral) : Run Item :=
  match literal.value with
  | some (.inl n) => return .int n
  | some (.inr x) => return .number x
  | none => fail frame (.overflow literal.written)

/-- An item as an argument of the expected type. -/
def conform (frame : Frame) (expected : Expected) (item : Item) : Run Item :=
  match expected, item with
  | .any, item | .text, item@(.value (.text _)) | .single, item@(.value (.single _)) => return item
  | expected, .nothing => fail frame (.invalidValue expected.type)
  | expected, other => fail frame (.wrongType expected.type other.type)

/-- A literal as an argument of the expected type. -/
def conformLiteral (frame : Frame) (expected : Expected) (term : Term) : Run Item :=
  match expected, term with
  | .any, .flag _ value => return .flag value
  | .any, .number _ literal => numberItem frame literal
  | .any, .text _ _ value | .text, .text _ _ value => return .text value
  | .single, .number _ literal => return .value (.single literal.float.toBinary32)
  | .any, .nil _ => return .nothing
  | expected, .nil _ => fail frame (.nilFor expected.type)
  | .single, term => fail frame (.unfit "float" (term.written false))
  | _, term => fail frame (.unfit "string" (term.written false))

/-- Refuse arguments that something other than a function is given. -/
def refuseArguments (frame : Frame) (first : Term) (hasArguments : Bool) : Run Unit :=
  if hasArguments then fail frame (.notFunction (first.written true)) else return

/-- Refuse a number of arguments that a function does not take. One of them may be the value of the
command before. -/
def checkCount (frame : Frame) (name : String) (signature : Signature) (given : Nat)
    (hasFinal : Bool) : Run Unit := do
  let total := given + (if hasFinal then 1 else 0)
  let needed := signature.needed.length
  if signature.takesMore then
    if total < needed then fail frame (.argumentLeast name needed given)
  else if total ≠ needed then fail frame (.argumentCount name needed total)

/-- Give a value to the variables that a pipeline declares or assigns. -/
def store (frame : Frame) (declared : List String) (assigns : Bool) (item : Item) : Run Unit :=
  declared.forM fun name => if assigns then assign frame name item else push name item

/-- The result of a function. What is decisive for a truth value and the arguments of the expected
types are only worked out as far as they are needed. -/
def callFunction (frame : Frame) (place : Place) (name written : String) (final : Option Item)
    (count : Nat) (decisive : Bool → Run Item) (arguments : List Expected → Run (List Item)) :
    Run Item := do
  reach place name
  match Builtin.ofName? name with
  | none => fail frame (.undefinedFunction name)
  | some builtin =>
      let signature := builtin.signature
      checkCount frame name signature count final.isSome
      if builtin = .both || builtin = .either then decisive (builtin = .either)
      else
        let items ← arguments signature.needed
        let last ← final.mapM (conform frame (signature.needed.getD count .any))
        match builtin.apply frame.parameters (items ++ last.toList) with
        | .ok item => return item
        | .error cause =>
            reach place written
            fail frame (.calling name cause)

mutual

/-- The value of the last of several commands. The value of each is the last argument of the next.
-/
def evalCommands (frame : Frame) (dot : Item) : Option Item → List (List Term) → Run Item
  | final, [] => return final.getD .nothing
  | final, command :: rest => do
      let item ← evalCommand frame dot final command
      evalCommands frame dot (some item) rest

/-- The value of a command. -/
def evalCommand (frame : Frame) (dot : Item) (final : Option Item) : List Term → Run Item
  | [] => return .nothing
  | first :: arguments => do
      let hasArguments := !arguments.isEmpty || final.isSome
      match first with
      | .function place name =>
          let written := " ".intercalate (Term.termsWritten (first :: arguments))
          callFunction frame place name written final arguments.length
            (fun truth => evalDecisive frame dot truth final arguments)
            fun expected => evalArguments frame dot expected arguments
      | .field _ names =>
          reachTerm first
          readFields frame hasArguments false dot names
      | .variable _ name fields =>
          reachTerm first
          let item ← valueOf frame name
          if fields.isEmpty then refuseArguments frame first hasArguments
          readFields frame hasArguments false item fields
      | .chain _ base fields =>
          reachTerm first
          let item ← evalArgument frame dot .any base
          readFields frame hasArguments false item fields
      | .pipeline _ declared assigns commands =>
          refuseArguments frame first hasArguments
          reachTerm first
          let item ← evalCommands frame dot none commands
          store frame declared assigns item
          return item
      | .dot _ =>
          reachTerm first
          refuseArguments frame first hasArguments
          return dot
      | .nil _ =>
          reachTerm first
          refuseArguments frame first hasArguments
          fail frame .nilCommand
      | literal =>
          reachTerm first
          refuseArguments frame first hasArguments
          conformLiteral frame .any literal

/-- The value of a term as an argument of the expected type. -/
def evalArgument (frame : Frame) (dot : Item) (expected : Expected) (term : Term) : Run Item := do
  reachTerm term
  match term with
  | .dot _ => conform frame expected dot
  | .field _ names => conform frame expected (← readFields frame false false dot names)
  | .variable _ name fields =>
      let item ← valueOf frame name
      conform frame expected (← readFields frame false false item fields)
  | .function place name =>
      let item ← callFunction frame place name name none 0 (fun _ => return .nothing)
        fun _ => return []
      conform frame expected item
  | .chain _ base fields =>
      let item ← evalArgument frame dot .any base
      conform frame expected (← readFields frame false false item fields)
  | .pipeline _ declared assigns commands =>
      let item ← evalCommands frame dot none commands
      store frame declared assigns item
      conform frame expected item
  | literal => conformLiteral frame expected literal

/-- The values of arguments. Those beyond the expected ones may have any type. -/
def evalArguments (frame : Frame) (dot : Item) : List Expected → List Term → Run (List Item)
  | _, [] => return []
  | expected, term :: rest => do
      let item ← evalArgument frame dot (expected.headD .any) term
      return item :: (← evalArguments frame dot (expected.drop 1) rest)

/-- The first argument that counts as the given truth value, or the last one. Those behind it are
not looked at. -/
def evalDecisive (frame : Frame) (dot : Item) (truth : Bool) : Option Item → List Term → Run Item
  | final, [] => return final.getD .nothing
  | final, term :: rest => do
      let item ← evalArgument frame dot .any term
      if item.isTrue frame.parameters == truth || (rest.isEmpty && final.isNone) then return item
      evalDecisive frame dot truth final rest

end

/-- The value of a pipeline, which goes into the variables that it declares or assigns. -/
def evalPipeline (frame : Frame) (dot : Item) (term : Term) : Run Item := do
  reachTerm term
  match term with
  | .pipeline _ declared assigns commands =>
      let item ← evalCommands frame dot none commands
      store frame declared assigns item
      return item
  | _ => return .nothing

/-- The rounds of a loop over an item: what its variables hold and what its subject is. Over a
number there is only a subject. -/
def rounds (frame : Frame) (declared : Nat) (item : Item) : Run (List (Item × Item)) :=
  let rendered := item.render frame.parameters
  let listed (entries : List Item) := entries.zipIdx.map fun entry => (Item.nat entry.2, entry.1)
  let counted (count : Nat) (build : Nat → Item) : Run (List (Item × Item)) :=
    if 1 < declared then fail frame (.loopVariables rendered)
    else return (List.range count).map fun n => (.nothing, build n)
  match item with
  | .value (.words ns) => return listed (ns.map Item.int)
  | .value (.texts ss) => return listed (ss.map Item.text)
  | .value .absent | .nothing => return []
  | .value (.int n) => counted n.toInt.toNat Item.nat
  | .byte byte => counted byte.toNat fun n => .byte (UInt8.ofNat n)
  | .all => return (Item.entries frame.parameters).map fun entry => (.text entry.1, .value entry.2)
  | _ => fail frame (.notIterable rendered)

/-- Give the variables of a loop their values for a round. -/
def bindRound (frame : Frame) (declared : List String) (assigns : Bool) (round : Item × Item) :
    Run Unit := do
  match declared, assigns with
  | [entry], true => assign frame entry round.2
  | [index, entry], true =>
      assign frame index round.1
      assign frame entry round.2
  | [_], false => setAt 0 round.2
  | [_, _], false =>
      setAt 0 round.2
      setAt 1 round.1
  | _, _ => return

/-- Run one round of a loop. The result says whether the loop goes on. -/
def runRound (body : Run Unit) : Run Bool :=
  tryCatch (do body; return true) fun
    | .next => return true
    | .stop => return false
    | fault => throw fault

/-- How deep calls of parts may be nested. -/
def callLimit : Nat := 100000

/-- The call of a part as it is written. -/
def callWritten (name : String) (argument : Option Term) : String :=
  let written := (argument.map fun term => " " ++ term.written false).getD ""
  "\x7b\x7btemplate " ++ Text.quote name ++ written ++ "\x7d\x7d"

mutual

/-- Run a piece on its subject. -/
def runPiece (frame : Frame) (dot : Item) : Piece → Run Unit
  | .text s => emit s
  | .action _ pipeline => do
      let item ← evalPipeline frame dot pipeline
      if pipeline.declarations.1.isEmpty then
        emit (if item = .nothing then "<no value>" else item.render frame.parameters)
  | .branch test yes no => inScope do
      let item ← evalPipeline frame dot test
      if item.isTrue frame.parameters then runPieces frame dot yes else runPieces frame dot no
  | .scope subject inner otherwise => inScope do
      let item ← evalPipeline frame dot subject
      if item.isTrue frame.parameters then runPieces frame item inner
      else runPieces frame dot otherwise
  | .loop _ items body otherwise => inScope do
      let item ← evalPipeline frame dot items
      let (declared, assigns) := items.declarations
      let rounds ← rounds frame declared.length item
      let count ← mark
      if rounds.isEmpty then runPieces frame dot otherwise
      let _ ← rounds.foldlM (fun goesOn round => do
        if !goesOn then return false
        bindRound frame declared assigns round
        let goesOn ← runRound (runPieces frame round.2 body)
        pop count
        return goesOn) true
  | .call place name argument => do
      reach place (callWritten name argument)
      if !frame.defines name then fail frame (.undefinedPart name)
      match frame.call with
      | none => fail frame (.tooDeep callLimit)
      | some call =>
          let subject ← match argument with
            | some term => evalPipeline frame dot term
            | none => pure .nothing
          call name subject
  | .stop => throw .stop
  | .next => throw .next

/-- Run pieces one after the other. -/
def runPieces (frame : Frame) (dot : Item) : List Piece → Run Unit
  | [] => return
  | piece :: rest => do
      runPiece frame dot piece
      runPieces frame dot rest

end

/-- Run a part on its subject. Its only variable is the subject. The depth says how far calls may
still be nested. -/
def runPart (script : Script) (parameters : Parameters) (depth : Nat) (name : String)
    (subject : Item) : Run Unit := do
  let outer := (← get).bindings
  modify fun progress => { progress with bindings := [(rootVariable, subject)] }
  let call := match depth with
    | 0 => none
    | depth + 1 => some (runPart script parameters depth)
  let frame : Frame := ⟨parameters, name, script.parts.contains, call⟩
  runPieces frame subject ((script.parts.get? name).getD [])
  modify fun progress => { progress with bindings := outer }

end StaticNet.Template.Script

namespace StaticNet.Template

/-- The text of the script of a name for the given parameters. -/
def Script.fill (script : Script) (name : String) (parameters : Parameters) :
    Except Script.Fault String :=
  let run := Script.runPart script parameters Script.callLimit name .all
  match run.run.run ⟨[], [], ({}, "")⟩ with
  | (.error (.fault fault), _) => .error fault
  | (_, progress) => .ok (String.join progress.output.reverse)

end StaticNet.Template
