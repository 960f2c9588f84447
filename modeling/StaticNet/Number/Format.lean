/-! # Binary floating point formats

A `FloatFormat` fixes the field widths of an interchange format. Bit patterns are decoded into a
`Datum`, whose finite values are exact, and a positive ratio of naturals is rounded to the nearest
bit pattern, a tie going to the even one. Everything is computed in exact integer arithmetic.
-/

namespace StaticNet

/-- The quotient rounded to the nearest natural, a half going to the even neighbour. -/
def nearestQuotient (numerator denominator : Nat) : Nat :=
  let quotient := numerator / denominator
  let twice := 2 * (numerator % denominator)
  if twice < denominator then quotient
  else if denominator < twice then quotient + 1
  else if quotient % 2 = 0 then quotient
  else quotient + 1

/-- What a bit pattern stands for. A finite value is `significand * 2 ^ scale` with a sign. -/
inductive Datum where
  | nan (negative : Bool) (payload : Nat)
  | infinite (negative : Bool)
  | finite (negative : Bool) (significand : Nat) (scale : Int)
deriving DecidableEq

/-- The field widths of a binary floating point format. -/
structure FloatFormat where
  fractionBits : Nat
  exponentBits : Nat
deriving DecidableEq

namespace FloatFormat

/-- The 32-bit format. -/
def single : FloatFormat := ⟨23, 8⟩

/-- The 64-bit format. -/
def double : FloatFormat := ⟨52, 11⟩

/-- The scale of the lowest bit of the smallest positive number. -/
@[inline] def leastScale (format : FloatFormat) : Int :=
  2 - Nat.pow 2 (format.exponentBits - 1) - format.fractionBits

/-- The magnitude pattern of infinity; larger ones are not-a-number. -/
@[inline] def infinityPattern (format : FloatFormat) : Nat :=
  (Nat.pow 2 format.exponentBits - 1) * Nat.pow 2 format.fractionBits

/-- The pattern of the sign. -/
@[inline] def signPattern (format : FloatFormat) (negative : Bool) : Nat :=
  if negative then Nat.pow 2 (format.fractionBits + format.exponentBits) else 0

/-- The payload bit that marks a quiet not-a-number. -/
def quietBit (format : FloatFormat) : Nat := Nat.pow 2 (format.fractionBits - 1)

/-- A payload with the quiet bit set. -/
def quieted (format : FloatFormat) (payload : Nat) : Nat :=
  if payload < format.quietBit then payload + format.quietBit else payload

/-- Read a bit pattern. -/
@[inline] def decode (format : FloatFormat) (pattern : Nat) : Datum :=
  let fraction := pattern % Nat.pow 2 format.fractionBits
  let exponent := pattern / Nat.pow 2 format.fractionBits % Nat.pow 2 format.exponentBits
  let negative := pattern / Nat.pow 2 (format.fractionBits + format.exponentBits) % 2 = 1
  if exponent = Nat.pow 2 format.exponentBits - 1 then
    if fraction = 0 then .infinite negative else .nan negative fraction
  else if exponent = 0 then .finite negative fraction format.leastScale
  else
    .finite negative (Nat.pow 2 format.fractionBits + fraction) (exponent - 1 + format.leastScale)

/-- The floor of the binary logarithm of a positive ratio. -/
def floorLog (numerator denominator : Nat) : Int :=
  let guess : Int := (numerator.log2 : Int) - denominator.log2
  if denominator * Nat.pow 2 guess.toNat ≤ numerator * Nat.pow 2 (-guess).toNat then guess
  else guess - 1

/-- The scale at which a positive ratio is rounded. -/
@[inline] def roundingScale (format : FloatFormat) (numerator denominator : Nat) : Int :=
  max (floorLog numerator denominator - format.fractionBits) format.leastScale

/-- The magnitude pattern nearest to a positive ratio. A significand that rounds up to the next
power of two carries into the exponent field, which is the right neighbour. -/
@[inline] def roundRatio (format : FloatFormat) (numerator denominator : Nat) : Nat :=
  let scale := format.roundingScale numerator denominator
  let significand :=
    nearestQuotient (numerator * Nat.pow 2 (-scale).toNat) (denominator * Nat.pow 2 scale.toNat)
  let pattern := (scale - format.leastScale).toNat * Nat.pow 2 format.fractionBits + significand
  min pattern format.infinityPattern

/-- Round `significand * 2 ^ scale` to a signed bit pattern. -/
@[inline] def roundScaled (format : FloatFormat) (negative : Bool) (significand : Nat)
    (scale : Int) : Nat :=
  format.signPattern negative +
    if significand = 0 then 0
    else format.roundRatio (significand * Nat.pow 2 scale.toNat) (Nat.pow 2 (-scale).toNat)

end FloatFormat

end StaticNet
