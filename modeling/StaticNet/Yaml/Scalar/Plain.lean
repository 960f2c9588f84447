import StaticNet.Yaml.Source

/-! # Plain scalars

A plain scalar is a run of words that no quotes enclose. It may go on over lines that are indented
far enough.
-/

namespace StaticNet.Yaml

/-- Brackets, braces and the comma between their items. -/
def isFlowMark (c : Char) : Bool := c = ',' || c = '[' || c = ']' || c = '\x7b' || c = '\x7d'

/-- Whether a plain scalar ends before a character with the given one behind it: before a colon that
ends a word and, inside brackets, before a bracket, a comma or a question mark. -/
def endsPlain (inFlow : Bool) (c next : Char) : Bool :=
  (c = ':' && isWordEnd next) || (inFlow && (isFlowMark c || c = '?'))

/-- A word of a plain scalar. The fuel bounds the number of its characters. -/
def takePlainWord (inFlow : Bool) : Nat → Scan (List Char)
  | 0 => return []
  | fuel + 1 => do
      let source ← get
      let c := source.char
      if isWordEnd c || endsPlain inFlow c (source.charBehind 1) then return []
      Scan.skip 1
      Scan.need 2
      return c :: (← takePlainWord inFlow fuel)

/-- The text of a plain scalar and whether the scalar ends behind a line break. -/
structure PlainText where
  text : List Char
  endsLine : Bool
deriving DecidableEq

/-- The words of a plain scalar that starts at the given place, and whose further lines start at the
least column or behind it. The fuel bounds the number of characters. -/
def takePlainWords (inFlow : Bool) (start : Place) (least : Nat) : Nat → Scan PlainText
  | 0 => return ⟨[], false⟩
  | fuel + 1 => do
      Scan.need 4
      let source ← get
      if source.atMarker || source.char = '#' then return ⟨[], false⟩
      let word ← takePlainWord inFlow fuel
      if !isSpace (← Scan.char) then return ⟨word, false⟩
      let gap ← Gap.read start least fuel false
      let endsLine := !gap.breaks.isEmpty
      if !inFlow && (← Scan.place).column < least then return ⟨word, endsLine⟩
      let more ← takePlainWords inFlow start least fuel
      if more.text.isEmpty then return ⟨word, endsLine⟩
      return ⟨word ++ gap.text ++ more.text, more.endsLine⟩

/-- The plain scalar at the place. -/
def takePlain (inFlow : Bool) (least : Nat) : Scan PlainText := do
  let source ← get
  takePlainWords inFlow source.place least (source.size + 1)

end StaticNet.Yaml
