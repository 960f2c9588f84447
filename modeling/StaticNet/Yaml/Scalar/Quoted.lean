import StaticNet.Number.Numeral
import StaticNet.Yaml.Source

/-! # Quoted scalars

In single quotes a doubled quote stands for one. In double quotes a backslash starts an escape, and
one at the end of a line takes the line break away.
-/

namespace StaticNet.Yaml

/-- The escapes that stand for one character. -/
def escaped? (c : Char) : Option Char :=
  match c with
  | '0' => some (Char.ofNat 0x00)
  | 'a' => some (Char.ofNat 0x07)
  | 'b' => some (Char.ofNat 0x08)
  | 't' | '\t' => some '\t'
  | 'n' => some '\n'
  | 'v' => some (Char.ofNat 0x0b)
  | 'f' => some (Char.ofNat 0x0c)
  | 'r' => some '\r'
  | 'e' => some (Char.ofNat 0x1b)
  | ' ' => some ' '
  | '"' => some '"'
  | '\'' => some '\''
  | '\\' => some '\\'
  | 'N' => some (Char.ofNat 0x85)
  | '_' => some (Char.ofNat 0xa0)
  | 'L' => some (Char.ofNat 0x2028)
  | 'P' => some (Char.ofNat 0x2029)
  | _ => none

/-- The number of digits of a numeric escape. -/
def escapeDigits? (c : Char) : Option Nat :=
  match c with
  | 'x' => some 2
  | 'u' => some 4
  | 'U' => some 8
  | _ => none

/-- The character of a hexadecimal code. -/
def hexChar (digits : List Char) : Except Problem Char :=
  match Numeral.digits? 16 digits with
  | none => .error .expectedHexadecimal
  | some code =>
      if code.isValidChar then .ok (Char.ofNat code) else .error .invalidCode

/-- What the escape at the place stands for, in a scalar that starts at the given place. -/
def takeEscape (start : Place) : Scan Char := do
  let mark := (← get).charBehind 1
  match escaped? mark, escapeDigits? mark with
  | some meant, _ =>
      Scan.skip 2
      return meant
  | none, some count =>
      Scan.skip 2
      Scan.need count
      match hexChar ((← get).window.take count) with
      | .ok meant =>
          Scan.skip count
          return meant
      | .error problem => Scan.refuse start problem
  | none, none => Scan.refuse start .unknownEscape

/-- The characters up to a blank, a line break or the closing quote, and whether an escaped line
break has ended them. The fuel bounds their number. -/
def takeQuotedWord (quote : Char) (start : Place) : Nat → Scan (List Char × Bool)
  | 0 => return ([], false)
  | fuel + 1 => do
      let source ← get
      let c := source.char
      let next := source.charBehind 1
      let isDouble := quote = '"'
      if isWordEnd c || (c = quote && (isDouble || next ≠ quote)) then return ([], false)
      if isDouble && c = '\\' && isBreak next then
        Scan.need 3
        Scan.skip 1
        Scan.skipBreak
        return ([], true)
      let meant ← if isDouble && c = '\\' then takeEscape start else do
        Scan.skip (if c = quote then 2 else 1)
        pure c
      Scan.need 2
      let (more, endsLine) ← takeQuotedWord quote start fuel
      return (meant :: more, endsLine)

/-- The text up to the closing quote of a scalar that starts at the given place. The fuel bounds the
number of characters. -/
def takeQuotedText (quote : Char) (start : Place) : Nat → Scan (List Char)
  | 0 => Scan.refuse start .unexpectedEnd
  | fuel + 1 => do
      Scan.need 4
      let source ← get
      if source.atMarker then Scan.refuse start .unexpectedMarker
      if source.char = endChar then Scan.refuse start .unexpectedEnd
      let (word, endsLine) ← takeQuotedWord quote start fuel
      Scan.need 1
      if (← Scan.char) = quote then return word
      let gap ← Gap.read start 0 fuel endsLine
      let space := if endsLine then gap.breaks else gap.text
      return word ++ space ++ (← takeQuotedText quote start fuel)

/-- The text of the quoted scalar at the place. -/
def takeQuoted : Scan (List Char) := do
  let source ← get
  Scan.skip 1
  let text ← takeQuotedText source.char source.place (source.size + 1)
  Scan.skip 1
  return text

end StaticNet.Yaml
