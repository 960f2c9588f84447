import StaticNet.Yaml.Source

/-! # Comments

A comment goes from a number sign to the end of its line. Comments are looked for behind a token on
its line, and in the lines behind another comment; only so far is looked ahead. A problem that is
met while looking ahead is overlooked at first.
-/

namespace StaticNet.Yaml

/-- How many characters are looked at for a comment. -/
def commentReach : Nat := 512

/-- Whether a line break takes several octets. -/
def isWideBreak (c : Char) : Bool := isBreak c && c ≠ '\n' && c ≠ '\r'

/-- The distance from the place to a comment behind blanks and, if lines are crossed, line breaks,
no shorter than the given one. Distances count octets, so a wide line break is left behind only in
part, and there the search ends. The fuel bounds the number of octets to be looked at. -/
def commentDistance? (crossesLines : Bool) : Nat → Nat → Scan (Option Nat)
  | 0, _ => return none
  | fuel + 1, distance => do
      if !(← Scan.reaches (distance + 1)) then return none
      let source ← get
      let c := source.charBehind distance
      if 0 < distance && isWideBreak (source.charBehind (distance - 1)) then return none
      if c = '#' then return some distance
      if isBlank c || (crossesLines && isBreak c) then
        return ← commentDistance? crossesLines fuel (distance + 1)
      return none

/-- Go to the end of the line of a comment that starts behind so many characters of the document.
The fuel bounds the number of characters. -/
def skipComment (start : Nat) : Nat → Scan Unit
  | 0 => return
  | fuel + 1 => do
      Scan.need 1
      let source ← get
      if !isLineEnd source.char then Scan.skip 1
      else if start ≤ source.place.index then return
      else Scan.skipBreak
      skipComment start fuel

/-- Go to the end of the line of the comment at a distance. -/
def skipCommentAt (distance : Nat) : Scan Unit := do
  let source ← get
  skipComment (source.place.index + distance) (source.size + 1)

/-- Skip the comment on the line of a token, unless another line has been started. -/
def skipLineComment : Scan Unit := do
  if (← get).startsLine then return
  if let some distance ← commentDistance? false commentReach 0 then skipCommentAt distance

/-- Skip the comment at a distance and those behind it. The fuel bounds their number. -/
def skipCommentsFrom : Nat → Nat → Scan Unit
  | 0, _ => return
  | fuel + 1, distance => do
      if let some distance ← commentDistance? true (commentReach - distance) distance then
        skipCommentAt distance
        skipCommentsFrom fuel 1

/-- Skip the comment at the place and those in the lines below, up to the end of the last one. -/
def skipComments : Scan Unit := do skipCommentsFrom ((← get).size + 1) 0

/-- Skip blanks, line breaks and comments, and tell whether a key may start there. A tab is a blank
only where no key may start. At the start of a line one character is skipped as long as the window
begins with a byte order mark. The fuel bounds the number of lines. -/
def skipSpaceLines (inFlow : Bool) : Nat → Bool → Scan Bool
  | 0, keyAllowed => return keyAllowed
  | fuel + 1, keyAllowed => do
      Scan.need 1
      let source ← get
      if source.place.column = 0 && source.front = orderMark then Scan.skip 1
      Scan.skipWhile fun c => c = ' ' || (c = '\t' && (inFlow || !keyAllowed))
      if (← Scan.char) = '#' then skipComments
      if !isBreak (← Scan.char) then return keyAllowed
      Scan.skipBreak
      skipSpaceLines inFlow fuel (keyAllowed || !inFlow)

/-- Go to the next token and tell whether a key may start there. -/
def skipSpace (inFlow keyAllowed : Bool) : Scan Bool := do
  skipSpaceLines inFlow ((← get).size + 1) keyAllowed

end StaticNet.Yaml
