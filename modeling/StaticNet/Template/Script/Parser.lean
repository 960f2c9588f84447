import StaticNet.Template.Script.Basic
import StaticNet.Template.Script.Function
import StaticNet.Template.Script.Token
import StaticNet.Text.Space

/-! # Reading scripts

A script is read token by token. Variables hold up to the end of the condition, loop or scope that
declares them. A part may be defined once; an empty definition gives way to any other.
-/

namespace StaticNet.Template.Script

/-- What is wrong with the text of a script, on which line, and the line on which the action starts,
if the fault lies in the characters of an action. -/
structure ParseFault where
  line : Nat
  detail : String
  start : Option Nat
deriving DecidableEq

/-- The wording of a parse fault in the script of the given name. -/
def ParseFault.message (fault : ParseFault) (name : String) : String :=
  let place (line : Nat) := name ++ ":" ++ toString line
  let origin := match fault.start with
    | some start =>
        if start = fault.line then ""
        else if fault.detail.endsWith " action" then " started at " ++ place start
        else " in action started at " ++ place start
    | none => ""
  "template: " ++ place fault.line ++ ": " ++ fault.detail ++ origin

/-- What reading goes on from: the tokens that are left, the line of the last token that was looked
at, the variables that hold, the number of loops around, the line on which the action starts, and
the parts that were defined. -/
structure Reading where
  tokens : List Token
  line : Nat
  bindings : List String
  loops : Nat
  action : Option Nat
  parts : Dict (List Piece)

/-- A computation that reads a script. -/
abbrev Parse := StateT Reading (Except ParseFault)

/-- The variable that holds what a part was called with. -/
def rootVariable : String := "$"

/-- How the pieces inside a condition, loop or scope end. -/
inductive Ending where
  | finish
  | otherwise

/-- An ending as it is written. -/
def Ending.written : Ending → String
  | .finish => "\x7b\x7bend\x7d\x7d"
  | .otherwise => "\x7b\x7belse\x7d\x7d"

/-- What holds further pieces. -/
inductive Control where
  | test
  | loop
  | scope
deriving DecidableEq

/-- The word that starts a control. -/
def Control.word : Control → String
  | .test => "if"
  | .loop => "range"
  | .scope => "with"

/-- The keyword that starts a control. -/
def Control.keyword : Control → Keyword
  | .test => .test
  | .loop => .loop
  | .scope => .scope

/-- The piece of a control. -/
def Control.piece (control : Control) (subject : Term) (inner otherwise : List Piece) : Piece :=
  match control with
  | .test => .branch subject inner otherwise
  | .loop => .loop subject.place subject inner otherwise
  | .scope => .scope subject inner otherwise

namespace Parse

/-- Refuse the script at the token that was looked at last. -/
def refuse {α : Type} (detail : String) : Parse α := do
  throw ⟨(← get).line, detail, none⟩

/-- The next token. -/
def look : Parse Token := do
  let state ← get
  let token := state.tokens.headD ⟨.endOfText, "", ⟨state.line, 0⟩⟩
  set { state with line := max state.line token.place.line }
  return token

/-- Take the next token. -/
def take : Parse Token := do
  let token ← look
  modify fun state => { state with tokens := state.tokens.drop 1 }
  return token

/-- The next token that is no blank. Blanks in front of it are taken. -/
def lookBehind : Parse Token := do
  let token ← look
  if token.kind ≠ .blank then return token
  let _ ← take
  look

/-- Take the next token that is no blank. -/
def takeBehind : Parse Token := do
  let _ ← lookBehind
  take

/-- Refuse a token where something else is expected. -/
def unexpected {α : Type} (token : Token) (context : String) : Parse α := do
  if token.kind = .fault then throw ⟨token.place.line, token.written, (← get).action⟩
  refuse ("unexpected " ++ token.described ++ " in " ++ context)

/-- Take a token of a kind. -/
def expect (kind : TokenKind) (context : String) : Parse Unit := do
  let token ← takeBehind
  if token.kind ≠ kind then unexpected token context

/-- A literal as part of a script. -/
def literal {α : Type} (result : Except LiteralFault α) : Parse α :=
  match result with
  | .ok value => pure value
  | .error fault => refuse fault.message

/-- The name of a part. -/
def partName (context : String) : Parse String := do
  let token ← takeBehind
  if token.kind = .quoted || token.kind = .rawQuoted then literal (textOf token.written)
  else unexpected token context

/-- Whether pieces are nothing but blank text. -/
def isEmptyPart (pieces : List Piece) : Bool :=
  pieces.all fun
    | .text s => (Text.trimSpace (Text.chars s)).isEmpty
    | _ => false

/-- Define a part. -/
def definePart (name : String) (pieces : List Piece) : Parse Unit := do
  match (← get).parts.get? name with
  | some earlier =>
      if isEmptyPart earlier then
        modify fun state => { state with parts := state.parts.insert name pieces }
      else if !isEmptyPart pieces then
        refuse ("template: multiple definition of template " ++ Text.quote name)
  | none => modify fun state => { state with parts := state.parts.insert name pieces }

/-- Declare a variable. -/
def declare (name : String) : Parse Unit :=
  modify fun state => { state with bindings := state.bindings ++ [name] }

/-- The variables in front of a pipeline that are declared or assigned, and whether they are
assigned. A loop may have two, the first of which may be given. -/
def declarations (isLoop : Bool) (context : String) : Nat → List String → Parse (List String × Bool)
  | 0, declared => return (declared, false)
  | fuel + 1, declared => do
      let token ← lookBehind
      if token.kind ≠ .variable then return (declared, false)
      let tokens := (← get).tokens
      let _ ← take
      let next ← lookBehind
      if next.kind = .assignment || next.kind = .declaration then
        let _ ← take
        declare token.written
        return (declared ++ [token.written], next.kind = .assignment)
      else if next.kind = .mark && next.written = "," then
        let _ ← take
        declare token.written
        if isLoop && declared.isEmpty then
          let second ← lookBehind
          if [TokenKind.variable, .closing, .closeParen].contains second.kind then
            declarations isLoop context fuel [token.written]
          else refuse "range can only initialize variables"
        else refuse ("too many declarations in " ++ context)
      else
        modify fun state => { state with tokens }
        return (declared, false)

/-- Whether a term can only stand in the first command of a pipeline. -/
def isValue : Term → Bool
  | .flag .. | .dot .. | .nil .. | .number .. | .text .. => true
  | _ => false

/-- The tokens that start a command. -/
def startsCommand (kind : TokenKind) : Bool :=
  [TokenKind.flag, .character, .complex, .dot, .field, .name, .number, .nil, .rawQuoted, .quoted,
    .variable, .openParen].contains kind

/-- Refuse a pipeline without commands, and one whose later commands cannot take an argument. -/
def checkPipeline (context : String) (commands : List (List Term)) : Parse Unit := do
  if commands.isEmpty then refuse ("missing value for " ++ context)
  match (commands.drop 1).findIdx? fun command => (command.head?).any isValue with
  | some index => refuse ("non executable command in pipeline stage " ++ toString (index + 2))
  | none => return

/-- The fields that follow a term. -/
def fields : Nat → Parse (List String)
  | 0 => return []
  | fuel + 1 => do
      let token ← look
      if token.kind ≠ .field then return []
      let _ ← take
      return (token.written.drop 1).toString :: (← fields fuel)

/-- A term with the fields that follow it, the first of which is at the given place. -/
def withFields (place : Place) (term : Term) (names : List String) : Parse Term :=
  match term with
  | .field _ first => return .field place (first ++ names)
  | .variable _ name first => return .variable place name (first ++ names)
  | term =>
      if isValue term then
        refuse ("unexpected . after term " ++ Text.quote (term.written false))
      else return .chain place term names

mutual

/-- A pipeline up to a closing token. The fuel bounds the number of tokens. -/
def pipeline (isLoop : Bool) (context : String) (close : TokenKind) : Nat → Parse Term
  | 0 => refuse "unexpected EOF"
  | fuel + 1 => do
      let place := (← lookBehind).place
      let (declared, assigns) ← declarations isLoop context 2 []
      let commands ← commands context close fuel
      checkPipeline context commands
      return .pipeline place declared assigns commands
termination_by structural fuel => fuel

/-- The commands of a pipeline. -/
def commands (context : String) (close : TokenKind) : Nat → Parse (List (List Term))
  | 0 => refuse "unexpected EOF"
  | fuel + 1 => do
      let token ← lookBehind
      if token.kind = close then
        let _ ← take
        return []
      if !startsCommand token.kind then
        let _ ← take
        unexpected token context
      let first ← command fuel
      if first.isEmpty then refuse "empty command"
      return first :: (← commands context close fuel)
termination_by structural fuel => fuel

/-- The terms of a command. A bar behind it is taken. -/
def command : Nat → Parse (List Term)
  | 0 => refuse "unexpected EOF"
  | fuel + 1 => do
      let operand ← operand fuel
      let terms := operand.toList
      let token ← look
      match token.kind with
      | .blank =>
          let _ ← take
          return terms ++ (← command fuel)
      | .closing | .closeParen => return terms
      | .bar =>
          let _ ← take
          return terms
      | _ =>
          let _ ← take
          unexpected token "operand"
termination_by structural fuel => fuel

/-- A term with the fields that follow it, if a term comes next. -/
def operand : Nat → Parse (Option Term)
  | 0 => refuse "unexpected EOF"
  | fuel + 1 => do
      match ← term fuel with
      | none => return none
      | some term =>
          let token ← look
          if token.kind ≠ .field then return some term
          return some (← withFields token.place term (← fields fuel))
termination_by structural fuel => fuel

/-- A term, if one comes next. -/
def term : Nat → Parse (Option Term)
  | 0 => refuse "unexpected EOF"
  | fuel + 1 => do
      let token ← lookBehind
      let place := token.place
      let taken (build : Parse Term) : Parse (Option Term) := do
        let _ ← take
        return some (← build)
      match token.kind with
      | .name => taken do
          if (Builtin.ofName? token.written).isNone then
            refuse ("function " ++ Text.quote token.written ++ " not defined")
          return .function place token.written
      | .dot => taken (return .dot place)
      | .nil => taken (return .nil place)
      | .variable => taken do
          if !(← get).bindings.contains token.written then
            refuse ("undefined variable " ++ Text.quote token.written)
          return .variable place token.written []
      | .field => taken (return .field place [(token.written.drop 1).toString])
      | .flag => taken (return .flag place (token.written = "true"))
      | .character => taken do
          let code ← literal (characterOf token.written)
          return .number place (.ofCharacter token.written code)
      | .number | .complex => taken do
          return .number place (← literal (NumberLiteral.ofText token.written))
      | .quoted | .rawQuoted => taken do
          return .text place token.written (← literal (textOf token.written))
      | .openParen =>
          let _ ← take
          return some (← pipeline false "parenthesized pipeline" .closeParen fuel)
      | _ => return none
termination_by structural fuel => fuel

end

/-- Read inside a part of its own, in which no variable but that of its subject holds and no loop is
around. -/
def inPart {α : Type} (read : Parse α) : Parse α := do
  let outer ← get
  set { outer with bindings := [rootVariable], loops := 0, action := none }
  let result ← read
  modify fun state =>
    { state with bindings := outer.bindings, loops := outer.loops, action := outer.action }
  return result

/-- An action that ends a loop or its round. -/
def interruption (word : String) (piece : Piece) : Parse Piece := do
  let written := "\x7b\x7b" ++ word ++ "\x7d\x7d"
  expect .closing written
  if (← get).loops = 0 then refuse (written ++ " outside \x7b\x7brange\x7d\x7d")
  return piece

/-- The call of a part. Its argument may be missing. -/
def callPart (fuel : Nat) : Parse Piece := do
  let place := (← lookBehind).place
  let context := "template clause"
  let name ← partName context
  if (← lookBehind).kind = .closing then
    let _ ← take
    return .call place name none
  return .call place name (some (← pipeline false context .closing fuel))

mutual

/-- The pieces up to an ending. The fuel bounds the number of tokens. -/
def pieces : Nat → Parse (List Piece × Ending)
  | 0 => refuse "unexpected EOF"
  | fuel + 1 => do
      if (← lookBehind).kind = .endOfText then refuse "unexpected EOF"
      match ← piece fuel with
      | .inr ending => return ([], ending)
      | .inl first =>
          let (others, ending) ← pieces fuel
          return (first :: others, ending)
termination_by structural fuel => fuel

/-- A piece or an ending. -/
def piece : Nat → Parse (Piece ⊕ Ending)
  | 0 => refuse "unexpected EOF"
  | fuel + 1 => do
      let token ← takeBehind
      match token.kind with
      | .text => return .inl (.text token.written)
      | .opening =>
          modify fun state => { state with action := some token.place.line }
          let result ← action fuel
          modify fun state => { state with action := none }
          return result
      | _ => unexpected token "input"
termination_by structural fuel => fuel

/-- The inside of an action. -/
def action : Nat → Parse (Piece ⊕ Ending)
  | 0 => refuse "unexpected EOF"
  | fuel + 1 => do
      let token ← lookBehind
      match token.kind with
      | .keyword .part =>
          let _ ← take
          return .inl (← definedCall fuel)
      | .keyword .stop =>
          let _ ← take
          return .inl (← interruption "break" .stop)
      | .keyword .next =>
          let _ ← take
          return .inl (← interruption "continue" .next)
      | .keyword .otherwise =>
          let _ ← take
          let next ← lookBehind
          if next.kind ≠ .keyword .test && next.kind ≠ .keyword .scope then expect .closing "else"
          return .inr .otherwise
      | .keyword .finish =>
          let _ ← take
          expect .closing "end"
          return .inr .finish
      | .keyword .test =>
          let _ ← take
          return .inl (← controlled .test fuel)
      | .keyword .loop =>
          let _ ← take
          return .inl (← controlled .loop fuel)
      | .keyword .scope =>
          let _ ← take
          return .inl (← controlled .scope fuel)
      | .keyword .call =>
          let _ ← take
          return .inl (← callPart fuel)
      | _ => return .inl (.action token.place (← pipeline false "command" .closing fuel))
termination_by structural fuel => fuel

/-- A condition, loop or scope. A further condition or scope may follow on the word that starts its
alternative, and needs no ending of its own. -/
def controlled (control : Control) : Nat → Parse Piece
  | 0 => refuse "unexpected EOF"
  | fuel + 1 => do
      let outer := (← get).bindings
      let subject ← pipeline (control = .loop) control.word .closing fuel
      let around := if control = .loop then 1 else 0
      modify fun state => { state with loops := state.loops + around }
      let (inner, ending) ← pieces fuel
      modify fun state => { state with loops := state.loops - around }
      let otherwise ← match ending with
        | .finish => pure []
        | .otherwise => do
            let next ← look
            if control ≠ .loop && next.kind = .keyword control.keyword then
              let _ ← take
              let further ← controlled control fuel
              pure [further]
            else
              let (others, last) ← pieces fuel
              match last with
              | .finish => pure others
              | .otherwise => refuse ("expected end; found " ++ last.written)
      modify fun state => { state with bindings := outer }
      return control.piece subject inner otherwise
termination_by structural fuel => fuel

/-- The definition of a part together with a call of it. -/
def definedCall : Nat → Parse Piece
  | 0 => refuse "unexpected EOF"
  | fuel + 1 => do
      let context := "block clause"
      let place := (← lookBehind).place
      let name ← partName context
      let argument ← pipeline false context .closing fuel
      let (inner, ending) ← inPart (pieces fuel)
      if let .otherwise := ending then
        refuse ("unexpected " ++ ending.written ++ " in " ++ context)
      definePart name inner
      return .call place name (some argument)
termination_by structural fuel => fuel

end

/-- The definition of a part. -/
def definition (fuel : Nat) : Parse Unit := do
  let context := "define clause"
  inPart do
    let name ← partName context
    expect .closing context
    let (inner, ending) ← pieces fuel
    if let .otherwise := ending then
      refuse ("unexpected " ++ ending.written ++ " in " ++ context)
    definePart name inner

/-- The pieces of a script outside of its definitions. -/
def script : Nat → Parse (List Piece)
  | 0 => return []
  | fuel + 1 => do
      let token ← look
      if token.kind = .endOfText then return []
      let tokens := (← get).tokens
      if token.kind = .opening then
        let _ ← take
        if (← takeBehind).kind = .keyword .define then
          definition fuel
          return ← script fuel
        modify fun state => { state with tokens }
      match ← piece fuel with
      | .inl first => return first :: (← script fuel)
      | .inr ending => refuse ("unexpected " ++ ending.written)

end Parse

end StaticNet.Template.Script

namespace StaticNet.Template

/-- Read the script of a name. -/
def Script.parse (name source : String) : Except Script.ParseFault Script := do
  let tokens := Script.tokens source
  let fuel := 4 * tokens.length + 16
  let start : Script.Reading := ⟨tokens, 0, [Script.rootVariable], 0, none, .empty⟩
  let reading : Script.Parse Unit := do
    Script.Parse.definePart name (← Script.Parse.script fuel)
  let (_, state) ← reading.run start
  return ⟨state.parts⟩

end StaticNet.Template
