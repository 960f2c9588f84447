import StaticNet.Number.Binary

/-! # Shortest decimal text

The digits of a number are the fewest that read back as it: for one, two, … digits the two
neighbours of the value on that decimal grid are tested against the interval of reals that round
to the number, and the first grid with a hit wins. Of two hits the nearer is taken, a tie going to
the even digit.
-/

namespace StaticNet

/-- A positive decimal `0.digits * 10 ^ point`, most significant digit first. -/
structure Decimal where
  digits : List Nat
  point : Int
deriving DecidableEq

namespace Decimal

/-- A positive value together with the ends of the interval that rounds to it, over a common
denominator. -/
structure Interval where
  low : Nat
  value : Nat
  high : Nat
  denominator : Nat
  closed : Bool

/-- The interval of reals that round to `significand * 2 ^ scale`. Below a power of two the
neighbour is only half as far away. -/
def Interval.of (format : FloatFormat) (significand : Nat) (scale : Int) : Interval :=
  let unit := Nat.pow 2 (scale - 2).toNat
  let below :=
    if significand = Nat.pow 2 format.fractionBits ∧ format.leastScale < scale then 1 else 2
  { low := (4 * significand - below) * unit
    value := 4 * significand * unit
    high := (4 * significand + 2) * unit
    denominator := Nat.pow 2 (2 - scale).toNat
    closed := significand % 2 = 0 }

/-- Whether `grid * numerator / divisor` rounds to the number. -/
def Interval.admits (interval : Interval) (grid numerator divisor : Nat) : Bool :=
  let point := grid * divisor * interval.denominator
  let low := interval.low * numerator
  let high := interval.high * numerator
  if interval.closed then low ≤ point && point ≤ high else low < point && point < high

/-- The number of decimal digits of a natural. -/
def digitCount (n : Nat) : Nat := (Nat.toDigits 10 n).length

/-- The power of ten just above a positive ratio: `10 ^ (k - 1) ≤ ratio < 10 ^ k`. -/
def pointOf (numerator denominator : Nat) : Int :=
  if denominator ≤ numerator then digitCount (numerator / denominator)
  else
    let shifts := List.range (denominator.log2 + 2)
    match shifts.find? fun shift => decide (denominator ≤ numerator * Nat.pow 10 shift) with
    | some shift => 1 - shift
    | none => 0

/-- The nearest of the two grid neighbours of the value that lie in the interval. -/
def Interval.onGrid? (interval : Interval) (point : Int) (count : Nat) : Option Nat :=
  let finer := Nat.pow 10 ((count : Int) - point).toNat
  let coarser := Nat.pow 10 (point - count).toNat
  let numerator := interval.value * finer
  let denominator := interval.denominator * coarser
  let lower := numerator / denominator
  let upper := if numerator % denominator = 0 then lower else lower + 1
  match interval.admits lower finer coarser, interval.admits upper finer coarser with
  | true, true => some (nearestQuotient numerator denominator)
  | true, false => some lower
  | false, true => some upper
  | false, false => none

/-- The decimal digits of a natural, most significant first. -/
def digitsOf (n : Nat) : List Nat := (Nat.toDigits 10 n).map fun c => c.toNat - '0'.toNat

/-- A grid value with its trailing zeros dropped; a value of one digit more moves the point. -/
def ofGrid (grid count : Nat) (point : Int) : Decimal :=
  let digits := digitsOf grid
  { digits := (digits.reverse.dropWhile (· = 0)).reverse
    point := point + (digits.length - count) }

/-- The shortest decimal that rounds to `significand * 2 ^ scale`. -/
def shortest (format : FloatFormat) (significand : Nat) (scale : Int) : Decimal :=
  let interval := Interval.of format significand scale
  let point := pointOf interval.value interval.denominator
  let counts := (List.range 17).map (· + 1)
  let hit := counts.findSome? fun count =>
    (interval.onGrid? point count).map fun grid => ofGrid grid count point
  hit.getD ⟨[], 0⟩

/-- The digits as text. -/
def digitText (digits : List Nat) : String := String.ofList (digits.map Nat.digitChar)

/-- How a decimal is laid out: the exponents written positionally, and the least number of
digits of a written exponent. -/
structure Style where
  leastPositional : Int
  exponentLimit : Int
  exponentDigits : Nat

/-- Numbers from `0.0001` up to, but not including, a million are written positionally, and an
exponent has at least two digits. -/
def general : Style := ⟨-4, 6, 2⟩

/-- Positional layout. -/
def positional (decimal : Decimal) : String :=
  let count := decimal.digits.length
  if decimal.point ≤ 0 then
    "0." ++ String.ofList (List.replicate (-decimal.point).toNat '0') ++ digitText decimal.digits
  else if (count : Int) ≤ decimal.point then
    digitText decimal.digits ++ String.ofList (List.replicate (decimal.point.toNat - count) '0')
  else
    digitText (decimal.digits.take decimal.point.toNat) ++ "." ++
      digitText (decimal.digits.drop decimal.point.toNat)

/-- Layout with an exponent. -/
def scientific (style : Style) (decimal : Decimal) : String :=
  let exponent := decimal.point - 1
  let fraction := decimal.digits.drop 1
  let written := toString exponent.natAbs
  let padding := List.replicate (style.exponentDigits - written.length) '0'
  digitText (decimal.digits.take 1) ++
    (if fraction.isEmpty then "" else "." ++ digitText fraction) ++
    (if exponent < 0 then "e-" else "e+") ++ String.ofList padding ++ written

/-- The text of a positive decimal. -/
def text (style : Style) (decimal : Decimal) : String :=
  let exponent := decimal.point - 1
  if exponent < style.leastPositional ∨ style.exponentLimit ≤ exponent then
    decimal.scientific style
  else decimal.positional

/-- The nearest decimal of so many digits to a positive `significand * 2 ^ scale`, a tie going to
the even digit. Trailing zeros are dropped. -/
def nearest (significand : Nat) (scale : Int) (count : Nat) : Decimal :=
  let numerator := significand * Nat.pow 2 scale.toNat
  let denominator := Nat.pow 2 (-scale).toNat
  let point := pointOf numerator denominator
  let finer := Nat.pow 10 ((count : Int) - point).toNat
  let coarser := Nat.pow 10 (point - count).toNat
  ofGrid (nearestQuotient (numerator * finer) (denominator * coarser)) count point

/-- The text of `significand * 2 ^ scale` with so many places behind the point, a tie going to the
even digit. -/
def fixed (significand : Nat) (scale : Int) (places : Nat) : String :=
  let scaled := nearestQuotient (significand * Nat.pow 2 scale.toNat * Nat.pow 10 places)
    (Nat.pow 2 (-scale).toNat)
  let digits := Nat.toDigits 10 scaled
  let padded := List.replicate (places + 1 - digits.length) '0' ++ digits
  let whole := String.ofList (padded.take (padded.length - places))
  if places = 0 then whole
  else whole ++ "." ++ String.ofList (padded.drop (padded.length - places))

/-- The shortest decimal text of a number of a format. -/
def textOf (format : FloatFormat) : Datum → String
  | .nan .. => "NaN"
  | .infinite negative => if negative then "-Inf" else "+Inf"
  | .finite negative significand scale =>
      let magnitude :=
        if significand = 0 then "0" else (shortest format significand scale).text general
      if negative then "-" ++ magnitude else magnitude

end Decimal

/-- The shortest decimal text of a single precision number. -/
def Binary32.text (x : Binary32) : String := Decimal.textOf .single x.datum

/-- The shortest decimal text of a double precision number. -/
def Binary64.text (x : Binary64) : String := Decimal.textOf .double x.datum

end StaticNet
