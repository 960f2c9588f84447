import StaticNet.Number.Format

/-! # Texts in powers of two

A number with a binary scale can be written without a decimal expansion: its significand as it is
held, or in hexadecimal digits with one bit before the point. The exponent is that of a power of two
in both.
-/

namespace StaticNet

namespace Hexadecimal

/-- The sign of an exponent. -/
def exponentSign (exponent : Int) : String := if exponent < 0 then "-" else "+"

/-- The significand in decimal digits with the scale as its exponent. -/
def heldText (significand : Nat) (scale : Int) : String :=
  toString significand ++ "p" ++ exponentSign scale ++ toString scale.natAbs

/-- The number of hexadecimal digits that hold the fraction of every number. -/
def allPlaces : Nat := 15

/-- A positive number by its exponent and its digits: the bit before the point, followed by so many
hexadecimal digits, read as one natural. A number that lies between two of these goes to the nearer,
a tie to the even one, and one that reaches the next power of two is written with that. -/
def rounded (significand : Nat) (scale : Int) (places : Nat) : Int × Nat :=
  let exponent := scale + significand.log2
  let digits := nearestQuotient (significand * Nat.pow 16 places) (Nat.pow 2 significand.log2)
  if 2 * Nat.pow 16 places ≤ digits then (exponent + 1, digits / 2) else (exponent, digits)

/-- The digits of a fraction of so many places, most significant first. -/
def fractionDigits (places fraction : Nat) : List Char :=
  let digits := if fraction = 0 then [] else Nat.toDigits 16 fraction
  List.replicate (places - digits.length) '0' ++ digits

/-- The text of a number that is not negative, with so many digits behind the point. Without a
stated number of places there are as many as are needed, and the exponent has at least two digits.
-/
def text (significand : Nat) (scale : Int) (places : Option Nat) : String :=
  let count := min (places.getD allPlaces) allPlaces
  let (exponent, digits) := if significand = 0 then (0, 0) else rounded significand scale count
  let fraction := fractionDigits count (digits % Nat.pow 16 count)
  let fraction := match places with
    | some places => fraction ++ List.replicate (places - count) '0'
    | none => (fraction.reverse.dropWhile (· = '0')).reverse
  let power := toString exponent.natAbs
  "0x" ++ toString (digits / Nat.pow 16 count) ++
    (if fraction.isEmpty then "" else "." ++ String.ofList fraction) ++
    "p" ++ exponentSign exponent ++ (if power.length < 2 then "0" else "") ++ power

end Hexadecimal

end StaticNet
