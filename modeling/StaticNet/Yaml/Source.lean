import StaticNet.Yaml.Encoding

/-! # Reading characters

A source hands out the characters of a document one after the other and keeps their place. It reads
as few pieces of the document as it can: a further one only when more characters are asked for than
its window holds. A problem therefore shows only when reading comes near it, and one that is met
while merely looking ahead is overlooked for a while. Behind the last character stands an end
character, which no document holds.
-/

namespace StaticNet.Yaml

/-- A place in a text: its line and column and the number of characters before it, all counted from
zero. -/
structure Place where
  line : Nat
  column : Nat
  index : Nat
deriving DecidableEq

/-- The end character. -/
def endChar : Char := Char.ofNat 0

/-- The byte order mark. -/
def orderMark : Char := '\ufeff'

/-- Line breaks. -/
def isBreak (c : Char) : Bool :=
  c = '\n' || c = '\r' || c = '\x85' || c = '\u2028' || c = '\u2029'

/-- Blanks inside a line. -/
def isBlank (c : Char) : Bool := c = ' ' || c = '\t'

/-- Blanks and line breaks. -/
def isSpace (c : Char) : Bool := isBlank c || isBreak c

/-- What ends a line. -/
def isLineEnd (c : Char) : Bool := isBreak c || c = endChar

/-- What ends a word. -/
def isWordEnd (c : Char) : Bool := isBlank c || isLineEnd c

/-- Letters, digits, dashes and underscores. -/
def isNameChar (c : Char) : Bool := c.isAlphanum || c = '_' || c = '-'

/-- A document that is being read: the characters that were read but not yet passed, the pieces that
were not read yet, the first character of the window at the time when it was filled last, the place,
whether a line break was passed since the last character that is no blank, a problem that was
overlooked, and the number of characters of the document. -/
structure Source where
  window : List Char
  pieces : List Piece
  front : Char
  place : Place
  startsLine : Bool
  overlooked : Option Problem
  size : Nat

namespace Source

/-- The source of the bytes of a document. -/
def ofBytes (bytes : Bytes) : Source where
  window := []
  pieces := readPieces bytes
  front := endChar
  place := ⟨0, 0, 0⟩
  startsLine := false
  overlooked := none
  size := (readPieces bytes).foldl (fun size piece => size + piece.chars.length) 0

/-- The character so far behind the place; the end character behind the end of the window. -/
def charBehind (source : Source) (distance : Nat) : Char := source.window.getD distance endChar

/-- The character at the place. -/
def char (source : Source) : Char := source.charBehind 0

/-- Read pieces until the window holds so many characters. At the end of the document one end
character is added, and at a problem reading stops for good. -/
def gather (count : Nat) (window : List Char) :
    List Piece → List Char × List Piece × Option Problem
  | [] => (window ++ [endChar], [], none)
  | piece :: rest =>
      let window := window ++ piece.chars
      if piece.problem.isSome then (window, [{ piece with chars := [] }], piece.problem)
      else if count ≤ window.length then (window, rest, none)
      else gather count window rest

/-- Fill the window if it holds fewer than so many characters. -/
def fill (source : Source) (count : Nat) : Source × Option Problem :=
  if count ≤ (source.window.take count).length then (source, none)
  else
    let (window, pieces, problem) := gather count source.window source.pieces
    ({ source with window, pieces, front := window.headD endChar }, problem)

/-- Pass so many characters, all on one line. -/
def pass (source : Source) (count : Nat) : Source :=
  let passed := source.window.take count
  { source with
    window := source.window.drop count
    place := { source.place with
      column := source.place.column + count, index := source.place.index + count }
    startsLine := source.startsLine && passed.all isBlank }

/-- The number of characters of the line break at the place. -/
def breakLength (source : Source) : Nat :=
  if !isBreak source.char then 0
  else if source.char = '\r' && source.charBehind 1 = '\n' then 2
  else 1

/-- Pass the line break at the place, if there is one. -/
def passBreak (source : Source) : Source :=
  match source.breakLength with
  | 0 => source
  | count =>
      { source with
        window := source.window.drop count
        place := ⟨source.place.line + 1, 0, source.place.index + count⟩
        startsLine := true }

/-- Whether a document marker stands at the place: three dashes or dots at the start of a line. -/
def atMarker (source : Source) : Bool :=
  let first := source.window.take 3
  source.place.column = 0 && (first = ['-', '-', '-'] || first = ['.', '.', '.']) &&
    isWordEnd (source.charBehind 3)

end Source

/-- A computation that reads characters. -/
abbrev Scan := StateT Source (Except SyntaxFault)

namespace Scan

/-- Refuse what starts at a place because of a problem here. -/
def refuse {α : Type} (start : Place) (problem : Problem) : Scan α := do
  throw ⟨start.line, (← get).place.line, problem⟩

/-- Read so far that so many characters can be looked at. -/
def need (count : Nat) : Scan Unit := do
  let (source, problem) := (← get).fill count
  match problem with
  | some problem => throw (.placeless problem)
  | none => set source

/-- Read so far that so many characters can be looked at, if there is no problem. One is
overlooked. -/
def reaches (count : Nat) : Scan Bool := do
  let (source, problem) := (← get).fill count
  set { source with overlooked := source.overlooked.or problem }
  return problem.isNone

/-- The character at the place. -/
def char : Scan Char := return (← get).char

/-- The place. -/
def place : Scan Place := return (← get).place

/-- Pass so many characters of a line. -/
def skip (count : Nat) : Scan Unit := modify (·.pass count)

/-- Pass the line break at the place, if there is one. -/
def skipBreak : Scan Unit := do
  need 2
  modify Source.passBreak

/-- Read a line break. Every ordinary one counts as the same character. -/
def takeBreak : Scan (List Char) := do
  let c ← char
  skipBreak
  if !isBreak c then return []
  return [if c = '\u2028' || c = '\u2029' then c else '\n']

/-- The characters from the place on that satisfy a test. The fuel bounds their number. -/
def takeRun (test : Char → Bool) : Nat → Scan (List Char)
  | 0 => return []
  | fuel + 1 => do
      need 1
      let c ← char
      if !test c then return []
      skip 1
      return c :: (← takeRun test fuel)

/-- The longest run of characters from the place on that satisfy a test. -/
def takeWhile (test : Char → Bool) : Scan (List Char) := do
  takeRun test ((← get).size + 1)

/-- Pass the longest run of characters from the place on that satisfy a test. -/
def skipWhile (test : Char → Bool) : Scan Unit := do
  let _ ← takeWhile test

/-- Pass what is left of a line, which may only be blanks and a comment, and its line break. -/
def finishLine (start : Place) : Scan Unit := do
  skipWhile isBlank
  if (← char) = '#' then skipWhile (!isLineEnd ·)
  let c ← char
  if !isLineEnd c then refuse start .expectedLineEnd
  if isBreak c then skipBreak

end Scan

/-- The blanks and line breaks between two words of a scalar: the blanks in front of the first line
break, and the line breaks. -/
structure Gap where
  blanks : List Char
  breaks : List Char
deriving DecidableEq

namespace Gap

/-- What a gap adds to a text. Blanks count inside a line only; a single ordinary line break becomes
a blank, and of several the first is left out. -/
def text (gap : Gap) : List Char :=
  match gap.breaks with
  | [] => gap.blanks
  | '\n' :: [] => [' ']
  | '\n' :: more => more
  | breaks => breaks

/-- Read a gap in a scalar that starts at a given place, behind a line break if that is so. No tab
may stand on a new line before the least column. The fuel bounds the number of characters. -/
def read (start : Place) (least : Nat) : Nat → Bool → Scan Gap
  | 0, _ => return ⟨[], []⟩
  | fuel + 1, isNewLine => do
      Scan.need 1
      let c ← Scan.char
      if isBlank c then
        if isNewLine && c = '\t' && (← Scan.place).column < least then
          Scan.refuse start .tabInPlain
        Scan.skip 1
        let gap ← read start least fuel isNewLine
        return if isNewLine then gap else { gap with blanks := c :: gap.blanks }
      else if isBreak c then
        let lineBreak ← Scan.takeBreak
        let gap ← read start least fuel true
        return { gap with breaks := lineBreak ++ gap.breaks }
      else return ⟨[], []⟩

end Gap

end StaticNet.Yaml
