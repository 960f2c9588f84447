import StaticNet.Number.Binary

/-! # Reading numerals

A natural may state its base by a letter behind a leading zero; a leading zero alone stands for
octal digits. A number has an optional fraction and exponent, or is written in hexadecimal digits
with a binary exponent. Where underscores are allowed, they stand between digits.
-/

namespace StaticNet.Numeral

/-- The value of a digit in bases up to sixteen. -/
def digit? (c : Char) : Option Nat :=
  if c.isDigit then some (c.toNat - '0'.toNat)
  else if 'a' ≤ c ∧ c ≤ 'f' then some (c.toNat - 'a'.toNat + 10)
  else if 'A' ≤ c ∧ c ≤ 'F' then some (c.toNat - 'A'.toNat + 10)
  else none

/-- Whether a character is a digit in base sixteen. -/
def isHexDigit (c : Char) : Bool := (digit? c).isSome

/-- The natural of digits in a base. -/
def digits? (base : Nat) (cs : List Char) : Option Nat :=
  cs.foldlM (fun n c => do
    let digit ← digit? c
    if digit < base then some (n * base + digit) else none) 0

/-- A natural behind the letter of its base. A leading zero stands for octal digits. -/
def natural? (cs : List Char) : Option Nat :=
  match cs with
  | [] => none
  | ['0'] => some 0
  | '0' :: mark :: first :: rest =>
      if mark = 'b' ∨ mark = 'B' then digits? 2 (first :: rest)
      else if mark = 'o' ∨ mark = 'O' then digits? 8 (first :: rest)
      else if mark = 'x' ∨ mark = 'X' then digits? 16 (first :: rest)
      else digits? 8 (mark :: first :: rest)
  | '0' :: rest => digits? 8 rest
  | other => digits? 10 other

/-- The sign of a number and what follows it. -/
def splitSign (cs : List Char) : Option Bool × List Char :=
  match cs with
  | '-' :: rest => (some true, rest)
  | '+' :: rest => (some false, rest)
  | other => (none, other)

/-- An integer of 64 bits with a sign bit. -/
def word? (negative : Bool) (n : Nat) : Option Int :=
  if negative then
    if Int64.minValue.toInt ≤ -(n : Int) then some (-(n : Int)) else none
  else if (n : Int) ≤ Int64.maxValue.toInt then some (n : Int)
  else none

/-- The exponent behind a letter, if there is one. -/
def exponent? (isMark : Char → Bool) (cs : List Char) : Option (Option Int) :=
  match cs with
  | [] => some none
  | mark :: rest =>
      let (sign, body) := splitSign rest
      if !isMark mark || body.isEmpty then none
      else (digits? 10 body).map fun n => some (if sign = some true then -(n : Int) else n)

/-- The number `digits * 10 ^ scale`, unless it is too large. -/
def scaled? (negative : Bool) (digits : Nat) (scale : Int) : Option Binary64 :=
  let size : Int := (Nat.toDigits 10 digits).length + scale
  if digits = 0 ∨ size < -400 then some (.zero negative)
  else if 400 < size then none
  else
    let pattern := FloatFormat.double.roundRatio (digits * Nat.pow 10 scale.toNat)
      (Nat.pow 10 (-scale).toNat)
    if pattern = FloatFormat.double.infinityPattern then none
    else some (.ofPattern (FloatFormat.double.signPattern negative + pattern))

/-- The number `digits * 2 ^ scale`, unless it is too large. -/
def shifted? (negative : Bool) (digits : Nat) (scale : Int) : Option Binary64 :=
  let size : Int := digits.log2 + scale
  if digits = 0 ∨ size < -2000 then some (.zero negative)
  else if 2000 < size then none
  else
    let number := Binary64.ofScaled negative digits scale
    if number = .infinity negative then none else some number

/-- Digits with an optional fraction: the digits before and behind the point, and the rest. -/
def splitFraction (isDigit : Char → Bool) (cs : List Char) : List Char × List Char × List Char :=
  let whole := cs.takeWhile isDigit
  match cs.drop whole.length with
  | '.' :: more => (whole, more.takeWhile isDigit, more.dropWhile isDigit)
  | rest => (whole, [], rest)

/-- A decimal number with an optional fraction and exponent. -/
def decimal? (cs : List Char) : Option Binary64 := do
  let (sign, body) := splitSign cs
  let (whole, fraction, rest) := splitFraction Char.isDigit body
  if whole.isEmpty && fraction.isEmpty then none
  else
    let exponent ← exponent? (fun c => c = 'e' || c = 'E') rest
    let digits ← digits? 10 (whole ++ fraction)
    scaled? (sign = some true) digits (exponent.getD 0 - fraction.length)

/-- A number in hexadecimal digits with an optional fraction. It needs an exponent, which is that of
a power of two. -/
def hexadecimal? (cs : List Char) : Option Binary64 := do
  let (sign, body) := splitSign cs
  let body ← match body with
    | '0' :: mark :: rest => if mark = 'x' ∨ mark = 'X' then some rest else none
    | _ => none
  let (whole, fraction, rest) := splitFraction isHexDigit body
  if whole.isEmpty && fraction.isEmpty then none
  else
    let exponent ← (← exponent? (fun c => c = 'p' || c = 'P') rest)
    let digits ← digits? 16 (whole ++ fraction)
    shifted? (sign = some true) digits (exponent - 4 * fraction.length)

/-- Whether underscores stand between digits only. What came before is given: whether it was a
digit, and whether it was an underscore. -/
def separates (isDigit : Char → Bool) : Bool → Bool → List Char → Bool
  | _, afterUnderscore, [] => !afterUnderscore
  | afterDigit, afterUnderscore, c :: rest =>
      if isDigit c then separates isDigit true false rest
      else if c = '_' then afterDigit && separates isDigit false true rest
      else !afterUnderscore && separates isDigit false false rest

/-- Whether the underscores of a numeral are well placed. The letter of a base counts as a digit. -/
def underscoresSeparate (cs : List Char) : Bool :=
  match (splitSign cs).2 with
  | '0' :: mark :: rest =>
      if mark = 'x' ∨ mark = 'X' then separates isHexDigit true false rest
      else if ['b', 'B', 'o', 'O'].contains mark then separates Char.isDigit true false rest
      else separates Char.isDigit false false ('0' :: mark :: rest)
  | body => separates Char.isDigit false false body

/-- A numeral without its underscores, if they are well placed. -/
def withoutUnderscores? (cs : List Char) : Option (List Char) :=
  if underscoresSeparate cs then some (cs.filter (· ≠ '_')) else none

/-- A number, in which underscores may separate digits. -/
def number? (cs : List Char) : Option Binary64 := do
  let plain ← withoutUnderscores? cs
  (hexadecimal? plain).or (decimal? plain)

end StaticNet.Numeral
