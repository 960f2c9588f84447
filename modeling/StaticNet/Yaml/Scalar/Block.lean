import StaticNet.Yaml.Source

/-! # Block scalars

A block scalar is a header line and the lines below it that are indented far enough. A literal one
keeps its line breaks; a folded one joins lines, except around lines that start with a blank.
-/

namespace StaticNet.Yaml

/-- What becomes of the line breaks at the end of a block scalar. -/
inductive Chomping where
  | strip
  | clip
  | keep
deriving DecidableEq

/-- The header of a block scalar: whether it is literal, its chomping, and how far its lines are
indented beyond the block around it, if that is stated. -/
structure BlockHeader where
  isLiteral : Bool
  chomping : Chomping
  increment : Option Nat
deriving DecidableEq

/-- The chomping that a character states. -/
def chomping? (c : Char) : Option Chomping :=
  if c = '+' then some .keep else if c = '-' then some .strip else none

/-- The chomping at the place, if one is stated. -/
def takeChomping : Scan (Option Chomping) := do
  Scan.need 1
  let stated := chomping? (← Scan.char)
  if stated.isSome then Scan.skip 1
  return stated

/-- The indentation at the place, if one is stated. It is a single digit other than zero. -/
def takeIncrement (start : Place) : Scan (Option Nat) := do
  Scan.need 1
  let c ← Scan.char
  if c = '0' then Scan.refuse start .zeroIndentation
  if !c.isDigit then return none
  Scan.skip 1
  return some (c.toNat - '0'.toNat)

/-- The header of the block scalar at the place. Chomping and indentation are stated in either
order. -/
def takeBlockHeader : Scan BlockHeader := do
  let source ← get
  Scan.skip 1
  let first ← takeChomping
  let increment ← takeIncrement source.place
  let second ← if first.isNone && increment.isSome then takeChomping else pure none
  Scan.finishLine source.place
  return ⟨source.char = '|', (first.or second).getD .clip, increment⟩

/-- Whether a blank at a place is part of the given indentation. Where none is given yet, every
blank at the start of a line is. -/
def isIndentation (indent : Option Nat) (place : Place) : Bool :=
  indent.all fun indent => place.column < indent

/-- Pass the indentation of a line. The fuel bounds the number of spaces. -/
def skipIndentation (indent : Option Nat) : Nat → Scan Unit
  | 0 => return
  | fuel + 1 => do
      Scan.need 1
      let source ← get
      if source.char = ' ' && isIndentation indent source.place then
        Scan.skip 1
        skipIndentation indent fuel

/-- The line breaks of empty lines, and the widest indentation among them and of the line behind
them. -/
structure EmptyLines where
  breaks : List Char
  widest : Nat
deriving DecidableEq

/-- Read empty lines and the indentation of the line behind them, in a scalar that starts at the
given place. A tab is no indentation. The fuel bounds the number of lines. -/
def takeEmptyLines (start : Place) (indent : Option Nat) : Nat → Scan EmptyLines
  | 0 => return ⟨[], 0⟩
  | fuel + 1 => do
      skipIndentation indent fuel
      let source ← get
      if source.char = '\t' && isIndentation indent source.place then
        Scan.refuse start .tabInBlock
      if !isBreak source.char then return ⟨[], source.place.column⟩
      let lineBreak ← Scan.takeBreak
      let lines ← takeEmptyLines start indent fuel
      return ⟨lineBreak ++ lines.breaks, max source.place.column lines.widest⟩

/-- The text of the lines of a block scalar, the break of the last of them, and the breaks of the
empty lines behind it. -/
structure BlockText where
  text : List Char
  lastBreak : List Char
  breaks : List Char
deriving DecidableEq

/-- The lines of a block scalar. Each is joined to the text before it, of which are given whether
its last line starts with a blank, the break of that line, and the breaks of the empty lines behind
it. The fuel bounds the number of characters. -/
def takeBlockLines (isLiteral : Bool) (start : Place) (indent : Nat) :
    Nat → Bool → List Char → List Char → Scan BlockText
  | 0, _, lastBreak, breaks => return ⟨[], lastBreak, breaks⟩
  | fuel + 1, afterBlank, lastBreak, breaks => do
      Scan.need 1
      let source ← get
      let c := source.char
      if source.place.column ≠ indent || c = endChar then return ⟨[], lastBreak, breaks⟩
      let isJoined := !isLiteral && !afterBlank && !isBlank c && lastBreak = ['\n']
      let joint := if isJoined then if breaks.isEmpty then [' '] else [] else lastBreak
      let line ← Scan.takeWhile (!isLineEnd ·)
      let lineBreak ← Scan.takeBreak
      let empty ← takeEmptyLines start (some indent) fuel
      let more ← takeBlockLines isLiteral start indent fuel (isBlank c) lineBreak empty.breaks
      return { more with text := joint ++ breaks ++ line ++ more.text }

/-- The text of the block scalar at the place, inside a block that is indented so far. Where the
header states no indentation, it is that of the first line with content. -/
def takeBlock (outer : Int) : Scan (List Char) := do
  let source ← get
  let start := source.place
  let fuel := source.size + 1
  let header ← takeBlockHeader
  let stated := header.increment.map fun increment => outer.toNat + increment
  let empty ← takeEmptyLines start stated fuel
  let indent := stated.getD (max empty.widest (max (outer + 1).toNat 1))
  let block ← takeBlockLines header.isLiteral start indent fuel false [] empty.breaks
  return block.text ++ match header.chomping with
    | .strip => []
    | .clip => block.lastBreak
    | .keep => block.lastBreak ++ block.breaks

end StaticNet.Yaml
