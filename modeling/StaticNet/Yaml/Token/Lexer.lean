import StaticNet.Yaml.Scalar.Block
import StaticNet.Yaml.Scalar.Plain
import StaticNet.Yaml.Scalar.Quoted
import StaticNet.Yaml.Token.Comment
import StaticNet.Yaml.Token.Property

/-! # The token stream

Tokens are read on demand, always a few ahead. A scalar, a bracket, an anchor or a tag may turn out
to start a key once a colon follows on its line, so a token is handed out only when it is known
whether a key token has to precede it. Indentation opens and closes blocks.
-/

namespace StaticNet.Yaml

/-- How many characters a key may have in front of its colon. -/
def keyLimit : Nat := 1024

/-- A token that starts a key if a colon follows: its number among all tokens, its place, whether
nothing but a key may stand there, and whether a colon would still make it a key. -/
structure KeyCandidate where
  number : Nat
  place : Place
  isRequired : Bool
  isOpen : Bool
deriving DecidableEq

/-- A token stream: the text that is left, the tokens that were read but not yet taken, the number
of tokens that were taken, the column of the current block and of the blocks around it, the level of
brackets, of which the outermost is zero, the key candidate of the level and those of the levels
around it, the numbers of tokens that are held back while the candidate of a level is open, with
that level, and whether a key may start next. -/
structure Lexer where
  source : Source
  queue : List Token
  taken : Nat
  indent : Int
  outer : List Int
  level : Nat
  candidate : KeyCandidate
  outerCandidates : List KeyCandidate
  awaited : List (Nat × Nat)
  keyAllowed : Bool

/-- The result of reading tokens. -/
abbrev Lexing := Except SyntaxFault

namespace Lexer

/-- The candidate of a level on which no key has started. -/
def noCandidate (number : Nat) (place : Place) : KeyCandidate := ⟨number, place, false, false⟩

/-- The token stream of a source. -/
def ofSource (source : Source) : Lexer where
  source := source
  queue := [⟨.streamStart, 0⟩]
  taken := 0
  indent := -1
  outer := []
  level := 0
  candidate := noCandidate 0 ⟨0, 0, 0⟩
  outerCandidates := []
  awaited := []
  keyAllowed := true

/-- Where reading goes on. -/
def place (lexer : Lexer) : Place := lexer.source.place

/-- Whether reading goes on inside brackets. -/
def inFlow (lexer : Lexer) : Bool := 0 < lexer.level

/-- The number of the next token. -/
def nextNumber (lexer : Lexer) : Nat := lexer.taken + lexer.queue.length

/-- A problem here in something that starts at a place. -/
def faultFrom (lexer : Lexer) (start : Place) (problem : Problem) : SyntaxFault :=
  ⟨start.line, lexer.place.line, problem⟩

/-- A problem at the place where reading goes on. -/
def fault (lexer : Lexer) (problem : Problem) : SyntaxFault := lexer.faultFrom lexer.place problem

/-- Read characters. -/
def scan {α : Type} (lexer : Lexer) (read : Scan α) : Lexing (α × Lexer) := do
  let (result, source) ← read.run lexer.source
  return (result, { lexer with source })

/-- Add a token that starts at a place. -/
def push (lexer : Lexer) (kind : TokenKind) (start : Place) : Lexer :=
  { lexer with queue := lexer.queue ++ [⟨kind, start.line⟩] }

/-- Insert a token in front of the one with the given number; at the end if that one is taken. -/
def insert (lexer : Lexer) (number : Nat) (token : Token) : Lexer :=
  if number < lexer.taken then { lexer with queue := lexer.queue ++ [token] }
  else
    let position := number - lexer.taken
    { lexer with queue := lexer.queue.take position ++ token :: lexer.queue.drop position }

/-- End the blocks, given by their columns, that lie to the right of a column. -/
def closeFrom (column : Int) (line : Nat) : Int → List Int → List Token × Int × List Int
  | indent, [] => ([], indent, [])
  | indent, outer :: rest =>
      if indent ≤ column then ([], indent, outer :: rest)
      else
        let (tokens, indent, outer) := closeFrom column line outer rest
        (⟨.blockEnd, line⟩ :: tokens, indent, outer)

/-- End the blocks to the right of a column. Inside brackets no block ends. -/
def closeBlocks (lexer : Lexer) (column : Int) : Lexer :=
  if lexer.inFlow then lexer
  else
    let (tokens, indent, outer) := closeFrom column lexer.place.line lexer.indent lexer.outer
    { lexer with queue := lexer.queue ++ tokens, indent, outer }

/-- Start a block at a place if that lies to the right of the current block. Its token precedes the
one with the given number. Inside brackets no block starts. -/
def openBlock (lexer : Lexer) (kind : TokenKind) (start : Place) (number : Nat) : Lexing Lexer :=
  if lexer.inFlow || start.column ≤ lexer.indent then .ok lexer
  else if depthLimit ≤ lexer.outer.length then
    .error (lexer.faultFrom lexer.candidate.place .tooDeep)
  else
    let opened := { lexer with indent := start.column, outer := lexer.indent :: lexer.outer }
    .ok (opened.insert number ⟨kind, start.line⟩)

/-- No longer hold back the token with a number. -/
def release (lexer : Lexer) (number : Nat) : Lexer :=
  { lexer with awaited := lexer.awaited.eraseP fun entry => entry.1 = number }

/-- A candidate that a colon no longer makes a key. -/
def closed (candidate : KeyCandidate) : KeyCandidate := { candidate with isOpen := false }

/-- Whether a colon here makes a candidate a key: it stands on the same line and not too far behind.
A required key must get its colon. -/
def isKey (lexer : Lexer) (candidate : KeyCandidate) : Lexing Bool :=
  let here := lexer.place
  let isNear := candidate.place.line = here.line && here.index ≤ candidate.place.index + keyLimit
  if candidate.isOpen && candidate.isRequired && !isNear then
    .error (lexer.faultFrom candidate.place .expectedColon)
  else .ok (candidate.isOpen && isNear)

/-- Whether a colon here makes the candidate of a level a key. If not, the candidate is closed, but
what waits for it goes on waiting for the candidate that takes its place. -/
def checkCandidate (lexer : Lexer) (level : Nat) : Lexing (Bool × Lexer) := do
  if level = lexer.level then
    if ← lexer.isKey lexer.candidate then return (true, lexer)
    return (false, { lexer with candidate := closed lexer.candidate })
  let index := lexer.level - level - 1
  match lexer.outerCandidates[index]? with
  | none => return (false, lexer)
  | some candidate =>
      if ← lexer.isKey candidate then return (true, lexer)
      return (false, { lexer with outerCandidates := lexer.outerCandidates.modify index closed })

/-- Give up the key candidate of the current level. -/
def dropCandidate (lexer : Lexer) : Lexing Lexer :=
  let candidate := lexer.candidate
  if !candidate.isOpen then .ok lexer
  else if candidate.isRequired then .error (lexer.faultFrom candidate.place .expectedColon)
  else .ok ({ lexer with candidate := closed candidate }.release candidate.number)

/-- Make the next token the key candidate of its level, if a key may start here. -/
def saveCandidate (lexer : Lexer) : Lexing Lexer := do
  if !lexer.keyAllowed then return lexer
  let isRequired := !lexer.inFlow && lexer.indent = lexer.place.column
  let candidate : KeyCandidate := ⟨lexer.nextNumber, lexer.place, isRequired, true⟩
  let dropped ← lexer.dropCandidate
  return { dropped with
    candidate, awaited := (candidate.number, lexer.level) :: dropped.awaited }

/-- Enter a level of brackets. -/
def enterFlow (lexer : Lexer) : Lexing Lexer :=
  let entered := { lexer with
    level := lexer.level + 1
    candidate := noCandidate lexer.nextNumber lexer.place
    outerCandidates := lexer.candidate :: lexer.outerCandidates }
  if depthLimit < entered.level then .error (lexer.fault .tooDeep) else .ok entered

/-- Leave a level of brackets. The token that its candidate stands for, which is the opening bracket
if there is none, is not held back any longer. -/
def leaveFlow (lexer : Lexer) : Lexer :=
  match lexer.outerCandidates with
  | [] => lexer
  | candidate :: rest =>
      { lexer.release lexer.candidate.number with
        level := lexer.level - 1, candidate, outerCandidates := rest }

/-- Read the end of the text, which starts a new line. -/
def readEnd (lexer : Lexer) : Lexing Lexer := do
  let here := lexer.place
  let last := if here.column = 0 then here else ⟨here.line + 1, 0, here.index⟩
  let ended := { lexer with source := { lexer.source with place := last } }
  let dropped ← (ended.closeBlocks (-1)).dropCandidate
  return { dropped with keyAllowed := false }.push .streamEnd last

/-- Read a directive or document marker, which ends all blocks. -/
def readOuter (lexer : Lexer) (take : Scan TokenKind) : Lexing Lexer := do
  let dropped ← (lexer.closeBlocks (-1)).dropCandidate
  let (kind, read) ← { dropped with keyAllowed := false }.scan take
  return read.push kind lexer.place

/-- The document marker at the place. -/
def takeMarker : Scan TokenKind := do
  let c ← Scan.char
  Scan.skip 3
  return if c = '-' then .documentStart else .documentEnd

/-- Read one character as a token. -/
def readMark (lexer : Lexer) (kind : TokenKind) (keyAllowed : Bool) : Lexer :=
  { lexer with keyAllowed, source := lexer.source.pass 1 }.push kind lexer.place

/-- Read an opening bracket. -/
def readOpening (lexer : Lexer) (kind : TokenKind) : Lexing Lexer := do
  return (← (← lexer.saveCandidate).enterFlow).readMark kind true

/-- Read a closing bracket. -/
def readClosing (lexer : Lexer) (kind : TokenKind) : Lexing Lexer := do
  return (← lexer.dropCandidate).leaveFlow.readMark kind false

/-- Read the dash of an item. -/
def readItem (lexer : Lexer) : Lexing Lexer := do
  if !lexer.inFlow && !lexer.keyAllowed then throw (lexer.fault .itemNotAllowed)
  let opened ← lexer.openBlock .sequenceStart lexer.place lexer.nextNumber
  return (← opened.dropCandidate).readMark .item true

/-- Read the question mark of a key. -/
def readKey (lexer : Lexer) : Lexing Lexer := do
  if !lexer.inFlow && !lexer.keyAllowed then throw (lexer.fault .keyNotAllowed)
  let opened ← lexer.openBlock .mappingStart lexer.place lexer.nextNumber
  return (← opened.dropCandidate).readMark .key (!lexer.inFlow)

/-- Turn the key candidate of the current level into a key. -/
def acceptCandidate (lexer : Lexer) : Lexing Lexer := do
  let candidate := lexer.candidate
  let keyed := lexer.insert candidate.number ⟨.key, candidate.place.line⟩
  let opened ← keyed.openBlock .mappingStart candidate.place candidate.number
  return { opened with candidate := closed candidate }.release candidate.number

/-- Read the colon of a value: behind a key candidate, or behind a key that is announced. -/
def readValue (lexer : Lexer) : Lexing Lexer := do
  let (isKey, lexer) ← lexer.checkCandidate lexer.level
  if isKey then return (← lexer.acceptCandidate).readMark .value false
  if !lexer.inFlow && !lexer.keyAllowed then throw (lexer.fault .valueNotAllowed)
  let opened ← lexer.openBlock .mappingStart lexer.place lexer.nextNumber
  return opened.readMark .value (!lexer.inFlow)

/-- Read a token that may start a key. -/
def readWord (lexer : Lexer) (take : Scan TokenKind) : Lexing Lexer := do
  let saved ← lexer.saveCandidate
  let (kind, read) ← { saved with keyAllowed := false }.scan take
  return read.push kind lexer.place

/-- Read a plain scalar. A key may start behind it if it ends behind a line break. -/
def readPlain (lexer : Lexer) : Lexing Lexer := do
  let saved ← lexer.saveCandidate
  let (plain, read) ← saved.scan (takePlain lexer.inFlow (lexer.indent + 1).toNat)
  let kind := .scalar (Text.ofChars plain.text) false
  return { read with keyAllowed := plain.endsLine }.push kind lexer.place

/-- Read a block scalar. -/
def readBlock (lexer : Lexer) : Lexing Lexer := do
  let dropped ← lexer.dropCandidate
  let (text, read) ← dropped.scan (takeBlock lexer.indent)
  return { read with keyAllowed := true }.push (.scalar (Text.ofChars text) true) lexer.place

/-- The characters, beside blanks and the marks of collections, that start no plain scalar. -/
def indicators : List Char := ['#', '&', '*', '!', '|', '>', '\'', '"', '%', '@', '\x60']

/-- Whether a plain scalar may start with a character before another. -/
def startsPlain (inFlow : Bool) (c next : Char) : Bool :=
  if c = '-' then !isBlank next
  else if c = '?' || c = ':' then !inFlow && !isWordEnd next
  else !isWordEnd c && !isFlowMark c && !indicators.contains c

/-- Read the token at the place. -/
def readToken (lexer : Lexer) : Lexing Lexer := do
  let c := lexer.source.char
  let next := lexer.source.charBehind 1
  let isAlone := lexer.inFlow || isWordEnd next
  match c with
  | '[' => lexer.readOpening .openBracket
  | '\x7b' => lexer.readOpening .openBrace
  | ']' => lexer.readClosing .closeBracket
  | '\x7d' => lexer.readClosing .closeBrace
  | ',' => return (← lexer.dropCandidate).readMark .comma true
  | '*' => lexer.readWord do return .reference (← takeName)
  | '&' => lexer.readWord do return .anchor (← takeName)
  | '!' => lexer.readWord do return .tag (← takeTag)
  | '"' | '\'' => lexer.readWord do return .scalar (Text.ofChars (← takeQuoted)) true
  | _ =>
      if c = '-' && isWordEnd next then lexer.readItem
      else if c = '?' && isAlone then lexer.readKey
      else if c = ':' && isAlone then lexer.readValue
      else if (c = '|' || c = '>') && !lexer.inFlow then lexer.readBlock
      else if startsPlain lexer.inFlow c next then lexer.readPlain
      else throw (lexer.fault .cannotStart)

/-- Skip a comment on the line of the last token. Behind the dash of an item it belongs to what
follows. -/
def finishToken (lexer : Lexer) : Lexing Lexer := do
  if lexer.queue.getLast?.any (·.kind = .item) then return lexer
  return (← lexer.scan skipLineComment).2

/-- Go to the next token, and look as far as the longest mark of a document and what ends it. -/
def goToToken (lexer : Lexer) : Lexing Lexer := do
  let (keyAllowed, lexer) ← lexer.scan (skipSpace lexer.inFlow lexer.keyAllowed)
  let closed := { lexer with keyAllowed }.closeBlocks lexer.place.column
  return (← closed.scan (Scan.need 4)).2

/-- Read the next token. -/
def read (lexer : Lexer) : Lexing Lexer := do
  let lexer ← lexer.goToToken
  let c := lexer.source.char
  if c = endChar then lexer.readEnd
  else if lexer.place.column = 0 && c = '%' then lexer.readOuter takeDirective
  else if lexer.source.atMarker then lexer.readOuter takeMarker
  else (← lexer.readToken).finishToken

/-- How many tokens are read ahead. -/
def lookahead : Nat := 3

/-- Whether another token has to be read before the first one can be taken. -/
def needsMore (lexer : Lexer) : Lexing (Bool × Lexer) :=
  if lexer.queue.length < lookahead then .ok (true, lexer)
  else
    match lexer.awaited.lookup lexer.taken with
    | some level => lexer.checkCandidate level
    | none => .ok (false, lexer)

/-- Read tokens until the first one can be taken. The fuel bounds their number. -/
def fill : Nat → Lexer → Lexing Lexer
  | 0, lexer => .ok lexer
  | fuel + 1, lexer => do
      let (isNeeded, lexer) ← lexer.needsMore
      if isNeeded then fill fuel (← lexer.read) else return lexer

/-- The first token that was not taken yet. -/
def peek (lexer : Lexer) : Lexing (Token × Lexer) := do
  let filled ← fill (lexer.source.size + lookahead + 1) lexer
  return (filled.queue.headD ⟨.streamEnd, filled.place.line⟩, filled)

/-- Take the first token. -/
def skip (lexer : Lexer) : Lexer :=
  { lexer with queue := lexer.queue.drop 1, taken := lexer.taken + 1 }

end Lexer

end StaticNet.Yaml
