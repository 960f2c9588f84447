import StaticNet.Yaml.Node
import StaticNet.Yaml.Token.Lexer

/-! # Reading nodes

Only the first document of a text is read. Anchors hold for the rest of the document, and a later
anchor of the same name takes the place of an earlier one. The nodes are put together in steps: a
scalar or a reference is one, and so is the start and the end of a collection and of the document. A
problem that was overlooked while tokens were read counts at the end of the step.
-/

namespace StaticNet.Yaml

/-- A node under the name of its anchor. A node that is still being read is incomplete. -/
structure Anchored where
  name : String
  node : Node
  isComplete : Bool

/-- What reading nodes goes on from: the tokens, the meanings of tag handles, and the anchored
nodes, the last one first. -/
structure Composition where
  lexer : Lexer
  handles : List (String × String)
  anchored : List Anchored

/-- A computation that reads nodes. -/
abbrev Compose := StateT Composition (Except SyntaxFault)

/-- The anchor and tag in front of a node. -/
structure Properties where
  anchor : Option String
  tag : Option String

namespace Compose

/-- The next token. -/
def peek : Compose Token := do
  let state ← get
  let (token, lexer) ← state.lexer.peek
  set { state with lexer }
  return token

/-- Take the next token. -/
def skip : Compose Unit := modify fun state => { state with lexer := state.lexer.skip }

/-- Take the next token and look at the one behind it. -/
def advance : Compose Token := do
  skip
  peek

/-- End a step. -/
def finishStep : Compose Unit := do
  if let some problem := (← get).lexer.source.overlooked then throw (.placeless problem)

/-- A missing node behind a line. -/
def missing (line : Nat) : Compose Node := do
  finishStep
  return .missing line

/-- Put a node under the name of its anchor, if it has one. -/
def anchor (name : Option String) (node : Node) (isComplete : Bool) : Compose Unit :=
  match name with
  | none => pure ()
  | some name =>
      modify fun state => { state with anchored := ⟨name, node, isComplete⟩ :: state.anchored }

/-- A collection is anchored while its items are being read, and completed behind them. -/
def collecting {α : Type} (properties : Properties) (build : Option String → List α → Node)
    (items : Compose (List α)) : Compose Node := do
  finishStep
  anchor properties.anchor (build properties.tag []) false
  let depth := (← get).anchored.length
  let node := build properties.tag (← items)
  let complete (state : Composition) : List Anchored :=
    state.anchored.modify (state.anchored.length - depth) fun entry =>
      { entry with node, isComplete := true }
  if properties.anchor.isSome then
    modify fun state => { state with anchored := complete state }
  return node

/-- The meaning of a tag: a handle stands for the text that it was given. -/
def tagMeaning (start line : Nat) (tag : WrittenTag) : Compose String := do
  if tag.handle = "" then return tag.suffix
  match (← get).handles.lookup tag.handle with
  | some meaning => return meaning ++ tag.suffix
  | none => throw ⟨start, line, .undefinedTagHandle⟩

/-- The anchor and tag in front of a node, in either order, and the token behind them. -/
def properties (first : Token) : Compose (Properties × Token) := do
  match first.kind with
  | .anchor name =>
      let second ← advance
      match second.kind with
      | .tag tag =>
          let third ← advance
          return (⟨some name, ← tagMeaning first.line second.line tag⟩, third)
      | _ => return (⟨some name, none⟩, second)
  | .tag tag =>
      let second ← advance
      match second.kind with
      | .anchor name =>
          let third ← advance
          return (⟨some name, ← tagMeaning first.line first.line tag⟩, third)
      | _ => return (⟨none, ← tagMeaning first.line first.line tag⟩, second)
  | _ => return (⟨none, none⟩, first)

/-- The tag of a node; an exclamation mark alone is none. -/
def nodeTag (tag : Option String) : Option String :=
  (tag.filter (· ≠ "!")).map shortTag

/-- The reference to an anchor. -/
def reference (token : Token) (name : String) : Compose Node := do
  skip
  finishStep
  match (← get).anchored.find? (·.name = name) with
  | some entry => return .reference (token.line + 1) name entry.node (!entry.isComplete)
  | none => throw (.placeless (.unknownAnchor name))

/-- A scalar with its anchor and tag. -/
def scalar (properties : Properties) (line : Nat) (text : String) (isQuoted : Bool) :
    Compose Node := do
  finishStep
  let node := Node.scalar line properties.tag text isQuoted
  anchor properties.anchor node true
  return node

/-- The end of a collection, whose last token is the next one. -/
def endCollection {α : Type} : Compose (List α) := do
  skip
  finishStep
  return []

mutual

/-- A node. A block may start only in a block, and items without indentation only behind a key. The
fuel bounds the number of tokens. -/
def node (inBlock allowsItems : Bool) : Nat → Compose Node
  | 0 => throw (.placeless .expectedNode)
  | fuel + 1 => do
      let first ← peek
      if let .reference name := first.kind then return ← reference first name
      let (written, token) ← properties first
      let properties := { written with tag := nodeTag written.tag }
      let line := first.line + 1
      match token.kind, inBlock with
      | .scalar text isQuoted, _ =>
          skip
          scalar properties line text isQuoted
      | .openBracket, _ =>
          skip
          collecting properties (.sequence line) (flowItems token.line true fuel)
      | .openBrace, _ =>
          skip
          collecting properties (.mapping line) (flowEntries token.line true fuel)
      | .sequenceStart, true =>
          skip
          collecting properties (.sequence line) (blockItems token.line fuel)
      | .mappingStart, true =>
          skip
          collecting properties (.mapping line) (blockEntries token.line fuel)
      | kind, _ =>
          if allowsItems && kind = .item then
            collecting properties (.sequence line) (looseItems fuel)
          else if written.anchor.isSome || written.tag.isSome then
            scalar properties line "" false
          else throw ⟨first.line, token.line, .expectedNode⟩
termination_by structural fuel => fuel

/-- A node, or a missing one if one of the given tokens comes first. -/
def nodeUnless (stops : List TokenKind) (inBlock allowsItems : Bool) (line : Nat) :
    Nat → Compose Node
  | 0 => throw (.placeless .expectedNode)
  | fuel + 1 => do
      let token ← peek
      if stops.contains token.kind then return ← missing line
      node inBlock allowsItems fuel
termination_by structural fuel => fuel

/-- The items of a block up to its end. -/
def blockItems (start : Nat) : Nat → Compose (List Node)
  | 0 => throw (.placeless .expectedItem)
  | fuel + 1 => do
      let token ← peek
      match token.kind with
      | .item =>
          skip
          let item ← nodeUnless [.item, .blockEnd] true false token.line fuel
          return item :: (← blockItems start fuel)
      | .blockEnd => endCollection
      | _ => throw ⟨start, token.line, .expectedItem⟩
termination_by structural fuel => fuel

/-- The items that follow a key without indentation. -/
def looseItems : Nat → Compose (List Node)
  | 0 => throw (.placeless .expectedItem)
  | fuel + 1 => do
      let token ← peek
      if token.kind ≠ .item then
        finishStep
        return []
      skip
      let item ← nodeUnless [.item, .key, .value, .blockEnd] true false token.line fuel
      return item :: (← looseItems fuel)
termination_by structural fuel => fuel

/-- The entries of a block up to its end. -/
def blockEntries (start : Nat) : Nat → Compose (List (Node × Node))
  | 0 => throw (.placeless .expectedKey)
  | fuel + 1 => do
      let token ← peek
      match token.kind with
      | .key =>
          skip
          let key ← nodeUnless [.key, .value, .blockEnd] true true token.line fuel
          let colon ← peek
          let value ← if colon.kind = .value then do
              skip
              nodeUnless [.key, .value, .blockEnd] true true colon.line fuel
            else missing colon.line
          return (key, value) :: (← blockEntries start fuel)
      | .blockEnd => endCollection
      | _ => throw ⟨start, token.line, .expectedKey⟩
termination_by structural fuel => fuel

/-- The value behind a key inside brackets, or a missing one. -/
def flowValue (stops : List TokenKind) : Nat → Compose Node
  | 0 => throw (.placeless .expectedNode)
  | fuel + 1 => do
      let colon ← peek
      if colon.kind ≠ .value then return ← missing colon.line
      let token ← advance
      nodeUnless stops false false token.line fuel
termination_by structural fuel => fuel

/-- The items up to the closing bracket. A key with its value makes an item. -/
def flowItems (start : Nat) (isFirst : Bool) : Nat → Compose (List Node)
  | 0 => throw (.placeless .expectedSequenceEnd)
  | fuel + 1 => do
      let next ← peek
      if next.kind = .closeBracket then return ← endCollection
      if !isFirst && next.kind ≠ .comma then throw ⟨start, next.line, .expectedSequenceEnd⟩
      let token ← if isFirst then pure next else advance
      match token.kind with
      | .closeBracket => endCollection
      | .key =>
          skip
          finishStep
          let behind ← peek
          let key ← if [TokenKind.value, .comma, .closeBracket].contains behind.kind then do
              skip
              missing behind.line
            else node false false fuel
          let value ← flowValue [.comma, .closeBracket] fuel
          let _ ← peek
          finishStep
          let pair := Node.mapping (token.line + 1) none [(key, value)]
          return pair :: (← flowItems start false fuel)
      | _ =>
          let item ← node false false fuel
          return item :: (← flowItems start false fuel)
termination_by structural fuel => fuel

/-- The entries up to the closing brace. An item without a colon is a key without a value. -/
def flowEntries (start : Nat) (isFirst : Bool) : Nat → Compose (List (Node × Node))
  | 0 => throw (.placeless .expectedMappingEnd)
  | fuel + 1 => do
      let next ← peek
      if next.kind = .closeBrace then return ← endCollection
      if !isFirst && next.kind ≠ .comma then throw ⟨start, next.line, .expectedMappingEnd⟩
      let token ← if isFirst then pure next else advance
      match token.kind with
      | .closeBrace => endCollection
      | .key =>
          let behind ← advance
          let key ← nodeUnless [.value, .comma, .closeBrace] false false behind.line fuel
          let value ← flowValue [.comma, .closeBrace] fuel
          return (key, value) :: (← flowEntries start false fuel)
      | _ =>
          let key ← node false false fuel
          let value ← missing (← peek).line
          return (key, value) :: (← flowEntries start false fuel)
termination_by structural fuel => fuel

end

/-- The directives in front of a document. Those that are stated twice are refused. -/
def directives : Nat → Bool → Compose Token
  | 0, _ => peek
  | fuel + 1, hasVersion => do
      let token ← peek
      match token.kind with
      | .version major minor =>
          if hasVersion then throw ⟨0, token.line, .repeatedVersion⟩
          if major ≠ 1 || minor ≠ 1 then throw ⟨0, token.line, .incompatibleVersion⟩
          skip
          directives fuel true
      | .tagDirective handle meaning =>
          if ((← get).handles.lookup handle).isSome then
            throw ⟨0, token.line, .repeatedTagDirective⟩
          modify fun state => { state with handles := state.handles ++ [(handle, meaning)] }
          skip
          directives fuel hasVersion
      | _ => return token

/-- The meanings that handles have unless a directive gives them another. -/
def standardHandles : List (String × String) := [("!", "!"), ("!!", standardTag)]

/-- Whether a token is a directive. -/
def isDirective : TokenKind → Bool
  | .version _ _ | .tagDirective _ _ => true
  | _ => false

/-- Whether a token ends a document that has a start marker. -/
def endsDocument (kind : TokenKind) : Bool :=
  isDirective kind || [TokenKind.documentStart, .documentEnd, .streamEnd].contains kind

/-- The first document, if there is one. Behind directives it needs a start marker. -/
def document (fuel : Nat) : Compose (Option Node) := do
  let _ ← peek
  skip
  finishStep
  let token ← peek
  if token.kind = .streamEnd then
    finishStep
    return none
  let first ← directives fuel false
  modify fun state => { state with handles := state.handles ++ standardHandles }
  let hasMarker := first.kind = .documentStart
  if isDirective token.kind && !hasMarker then throw ⟨0, first.line, .expectedDocumentStart⟩
  if hasMarker then skip
  finishStep
  let content ← peek
  let root ← if hasMarker && endsDocument content.kind then missing content.line
    else node true false fuel
  let _ ← peek
  finishStep
  return some root

end Compose

/-- The first document in bytes, if there is one. The fuel counts the tokens that the characters
can stand for. -/
def parse (bytes : Bytes) : Except SyntaxFault (Option Node) := do
  let source := Source.ofBytes bytes
  let state : Composition := ⟨.ofSource source, [], []⟩
  let (root, _) ← (Compose.document (8 * source.size + 16)).run state
  return root

end StaticNet.Yaml
