import StaticNet.Number.Numeral
import StaticNet.Template.Basic
import StaticNet.Text.Utf8

/-! # Literals of scripts

Quoted texts and characters with their escapes, and numbers. An integer has 64 bits; any other
number is written with a point or an exponent.
-/

namespace StaticNet.Template.Script

/-- What is wrong with a literal. -/
inductive LiteralFault where
  | illFormed
  | malformedCharacter (written : String)
  | tooLarge (written : String)
  | illegalNumber (written : String)
deriving DecidableEq

/-- The wording of a literal fault. -/
def LiteralFault.message : LiteralFault → String
  | .illFormed => "invalid syntax"
  | .malformedCharacter written => "malformed character constant: " ++ written
  | .tooLarge written => "integer overflow: " ++ Text.quote written
  | .illegalNumber written => "illegal number syntax: " ++ Text.quote written

/-- The escapes that stand for one character. The quote around the text may be escaped. -/
def escaped? (quote c : Char) : Option Char :=
  match c with
  | 'a' => some '\x07'
  | 'b' => some '\x08'
  | 'f' => some '\x0c'
  | 'n' => some '\n'
  | 'r' => some '\r'
  | 't' => some '\t'
  | 'v' => some '\x0b'
  | '\\' => some '\\'
  | c => if c = quote then some quote else none

/-- The code of a numeric escape behind its backslash: a byte in two hexadecimal or three octal
digits, or a character in four or eight hexadecimal digits. The number of characters that it takes
is given with it, and whether it is a byte. -/
def numericEscape? (cs : List Char) : Option (Nat × Nat × Bool) := do
  let (width, base, digits, lead) ← match cs with
    | 'x' :: rest => some (2, 16, rest, 1)
    | 'u' :: rest => some (4, 16, rest, 1)
    | 'U' :: rest => some (8, 16, rest, 1)
    | digits => some (3, 8, digits, 0)
  if digits.length < width then none
  let code ← Numeral.digits? base (digits.take width)
  let isByte := width ≤ 3
  if isByte && 256 ≤ code then none
  else if !isByte && !code.isValidChar then none
  else some (code, lead + width, isByte)

/-- The octets inside double quotes, with escapes replaced. The fuel bounds their number. -/
def unquoted? : Nat → List Char → Option (List Char)
  | 0, _ => some []
  | _ + 1, [] => some []
  | fuel + 1, '\\' :: rest =>
      match (rest.head?).bind (escaped? '"') with
      | some c => (unquoted? fuel (rest.drop 1)).map (c :: ·)
      | none => do
          let (code, count, isByte) ← numericEscape? rest
          let octets := if isByte then [Char.ofNat code] else Text.encodeChar (Char.ofNat code)
          return octets ++ (← unquoted? fuel (rest.drop count))
  | fuel + 1, c :: rest => (unquoted? fuel rest).map (c :: ·)

/-- The text of a quoted text as it is written. In a raw one nothing is escaped and carriage returns
are left out. -/
def textOf (written : String) : Except LiteralFault String :=
  let body := (written.toList.drop 1).dropLast
  if written.toList.head? = some '\x60' then .ok (String.ofList (body.filter (· ≠ '\r')))
  else
    match unquoted? body.length body with
    | some octets => .ok (String.ofList octets)
    | none => .error .illFormed

/-- The code point of a character in single quotes as it is written. -/
def characterOf (written : String) : Except LiteralFault Nat :=
  match (Text.chars written).drop 1 with
  | '\\' :: rest =>
      let (code, count) := match (rest.head?).bind (escaped? '\'') with
        | some c => (some c.toNat, 1)
        | none =>
            match numericEscape? rest with
            | some (code, count, _) => (some code, count)
            | none => (none, 0)
      match code with
      | some code =>
          if rest.drop count = ['\''] then .ok code else .error (.malformedCharacter written)
      | none => .error .illFormed
  | c :: rest =>
      if c = '\'' then .error .illFormed
      else if rest = ['\''] then .ok c.toNat
      else .error (.malformedCharacter written)
  | [] => .error .illFormed

/-- A number of a script as it is written. Its value is missing if it is an integer that needs all
of 64 bits. -/
structure NumberLiteral where
  written : String
  value : Option (Int64 ⊕ Binary64)
  float : Binary64
deriving DecidableEq

namespace NumberLiteral

/-- The number of a character. -/
def ofCharacter (written : String) (code : Nat) : NumberLiteral :=
  ⟨written, some (.inl (Int64.ofNat code)), .ofInt code⟩

/-- The integer of a numeral. Without a sign it may use all of 64 bits. -/
def integer? (cs : List Char) : Option Int := do
  let (sign, body) := Numeral.splitSign (← Numeral.withoutUnderscores? cs)
  let n ← Numeral.natural? body
  match sign with
  | some negative => Numeral.word? negative n
  | none => if n < UInt64.size then some (n : Int) else none

/-- Read a number as it is written. -/
def ofText (written : String) : Except LiteralFault NumberLiteral :=
  let cs := written.toList
  match integer? cs, Numeral.number? cs with
  | some n, _ =>
      let value := if n ≤ Int64.maxValue.toInt then some (.inl (Int64.ofInt n)) else none
      .ok ⟨written, value, .ofInt n⟩
  | none, some x =>
      if cs.any fun c => ['.', 'e', 'E', 'p', 'P'].contains c then .ok ⟨written, some (.inr x), x⟩
      else .error (.tooLarge written)
  | none, none => .error (.illegalNumber written)

end NumberLiteral

end StaticNet.Template.Script
