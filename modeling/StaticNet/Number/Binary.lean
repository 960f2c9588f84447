import StaticNet.Number.Format

/-! # Single and double precision numbers

Numbers are kept as bit patterns, so that what is read from a file is written back bit for bit.
Arithmetic is exact followed by one rounding. An operation without a value gives
`Binary64.invalid`, and an operand that is not a number is passed on quieted, the left one first.
-/

namespace StaticNet

/-- A single precision number as its bit pattern. -/
structure Binary32 where
  bits : UInt32
deriving DecidableEq

/-- A double precision number as its bit pattern. -/
structure Binary64 where
  bits : UInt64
deriving DecidableEq

instance : Inhabited Binary32 := ⟨⟨0⟩⟩

instance : Inhabited Binary64 := ⟨⟨0⟩⟩

namespace Binary32

/-- The number that the bit pattern stands for. -/
def datum (x : Binary32) : Datum := FloatFormat.single.decode x.bits.toNat

/-- The number with the given natural as bit pattern. -/
def ofPattern (pattern : Nat) : Binary32 := ⟨UInt32.ofNat pattern⟩

/-- The nearest single precision number of an integer. -/
def ofInt (value : Int) : Binary32 :=
  ofPattern (FloatFormat.single.roundScaled (decide (value < 0)) value.natAbs 0)

/-- The number one. -/
def one : Binary32 := ⟨0x3f800000⟩

/-- Positive infinity. -/
def infinity : Binary32 := ⟨0x7f800000⟩

/-- Negative infinity. -/
def negInfinity : Binary32 := ⟨0xff800000⟩

/-- Whether the number is a zero of either sign. -/
def isZero (x : Binary32) : Bool := x.bits = 0 || x.bits = 0x80000000

end Binary32

namespace Binary64

/-- The number that the bit pattern stands for. -/
def datum (x : Binary64) : Datum := FloatFormat.double.decode x.bits.toNat

/-- The number with the given natural as bit pattern. -/
def ofPattern (pattern : Nat) : Binary64 := ⟨UInt64.ofNat pattern⟩

/-- The nearest number of `significand * 2 ^ scale`. -/
def ofScaled (negative : Bool) (significand : Nat) (scale : Int) : Binary64 :=
  ofPattern (FloatFormat.double.roundScaled negative significand scale)

/-- The nearest double precision number of an integer. -/
def ofInt (value : Int) : Binary64 := ofScaled (decide (value < 0)) value.natAbs 0

/-- The zero of the given sign. -/
def zero (negative : Bool) : Binary64 := ofScaled negative 0 0

/-- The infinity of the given sign. -/
def infinity (negative : Bool) : Binary64 :=
  ofPattern (FloatFormat.double.signPattern negative + FloatFormat.double.infinityPattern)

/-- The not-a-number of the given sign and payload. -/
def notANumber (negative : Bool) (payload : Nat) : Binary64 :=
  ofPattern (FloatFormat.double.signPattern negative + FloatFormat.double.infinityPattern +
    FloatFormat.double.quieted payload)

/-- The result of an operation that has no value. -/
def invalid : Binary64 := notANumber true 0

/-- Whether the bit pattern stands for no number. -/
def isNaN (x : Binary64) : Bool :=
  match x.datum with
  | .nan .. => true
  | _ => false

/-- The integer with a sign and a magnitude. -/
def signed (negative : Bool) (magnitude : Nat) : Int :=
  if negative then -(magnitude : Int) else magnitude

/-- The rounded sum. -/
def add (x y : Binary64) : Binary64 :=
  match x.datum, y.datum with
  | .nan negative payload, _ => notANumber negative payload
  | _, .nan negative payload => notANumber negative payload
  | .infinite left, .infinite right => if left = right then x else invalid
  | .infinite _, _ => x
  | _, .infinite _ => y
  | .finite left m q, .finite right n r =>
      let scale := min q r
      let total := signed left (m * Nat.pow 2 (q - scale).toNat) +
        signed right (n * Nat.pow 2 (r - scale).toNat)
      if total = 0 then zero (left && right) else ofScaled (decide (total < 0)) total.natAbs scale

/-- The number with its sign flipped; not-a-number is left as it is. -/
def negate (x : Binary64) : Binary64 :=
  match x.datum with
  | .nan .. => x
  | _ => ⟨x.bits ^^^ 0x8000000000000000⟩

/-- The rounded difference. -/
def sub (x y : Binary64) : Binary64 := add x y.negate

/-- The rounded product. -/
def mul (x y : Binary64) : Binary64 :=
  match x.datum, y.datum with
  | .nan negative payload, _ => notANumber negative payload
  | _, .nan negative payload => notANumber negative payload
  | .infinite left, .infinite right => infinity (left != right)
  | .infinite left, .finite right n _ => if n = 0 then invalid else infinity (left != right)
  | .finite left m _, .infinite right => if m = 0 then invalid else infinity (left != right)
  | .finite left m q, .finite right n r => ofScaled (left != right) (m * n) (q + r)

/-- The rounded quotient. -/
def div (x y : Binary64) : Binary64 :=
  match x.datum, y.datum with
  | .nan negative payload, _ => notANumber negative payload
  | _, .nan negative payload => notANumber negative payload
  | .infinite _, .infinite _ => invalid
  | .infinite left, .finite right _ _ => infinity (left != right)
  | .finite left _ _, .infinite right => zero (left != right)
  | .finite left m q, .finite right n r =>
      if n = 0 then if m = 0 then invalid else infinity (left != right)
      else if m = 0 then zero (left != right)
      else
        let scale := q - r
        ofPattern (FloatFormat.double.signPattern (left != right) +
          FloatFormat.double.roundRatio (m * Nat.pow 2 scale.toNat)
            (n * Nat.pow 2 (-scale).toNat))

/-- Numerical equality in which not-a-number equals itself and the two zeros agree. -/
def agrees (x y : Binary64) : Bool :=
  match x.datum, y.datum with
  | .nan .., .nan .. => true
  | .nan .., _ => false
  | _, .nan .. => false
  | .finite _ 0 _, .finite _ 0 _ => true
  | _, _ => x.bits = y.bits

/-- Numerical equality; not-a-number equals nothing. -/
def equals (x y : Binary64) : Bool := !x.isNaN && x.agrees y

/-- Whether a number is below another; not-a-number is below nothing and nothing is below it. -/
def less (x y : Binary64) : Bool :=
  match x.datum, y.datum with
  | .nan .., _ | _, .nan .. => false
  | .infinite left, .infinite right => left && !right
  | .infinite left, .finite .. => left
  | .finite .., .infinite right => !right
  | .finite left m q, .finite right n r =>
      let scale := min q r
      signed left (m * Nat.pow 2 (q - scale).toNat) < signed right (n * Nat.pow 2 (r - scale).toNat)

/-- The integer part of a finite number. -/
def truncate? (x : Binary64) : Option Int :=
  match x.datum with
  | .finite negative m q =>
      some (signed negative (m * Nat.pow 2 q.toNat / Nat.pow 2 (-q).toNat))
  | _ => none

/-- The largest integer that is not above a finite number. -/
def floor? (x : Binary64) : Option Int :=
  match x.datum with
  | .finite negative m q =>
      some (Int.fdiv (signed negative (m * Nat.pow 2 q.toNat)) (Nat.pow 2 (-q).toNat))
  | _ => none

/-- The smallest integer that is not below a finite number. -/
def ceil? (x : Binary64) : Option Int :=
  match x.datum with
  | .finite negative m q =>
      some (-Int.fdiv (-signed negative (m * Nat.pow 2 q.toNat)) (Nat.pow 2 (-q).toNat))
  | _ => none

/-- The value of a number that is an integer. -/
def integer? (x : Binary64) : Option Int :=
  match x.datum with
  | .finite negative m q =>
      if m * Nat.pow 2 q.toNat % Nat.pow 2 (-q).toNat = 0 then
        some (signed negative (m * Nat.pow 2 q.toNat / Nat.pow 2 (-q).toNat))
      else none
  | _ => none

/-- An integer as a machine word; one that does not fit gives the least word. -/
def wordOf (value : Option Int) : Int64 :=
  match value with
  | some n =>
      if Int64.minValue.toInt ≤ n ∧ n ≤ Int64.maxValue.toInt then Int64.ofInt n else Int64.minValue
  | none => Int64.minValue

/-- The integer part as a machine word. -/
def toWord (x : Binary64) : Int64 := wordOf x.truncate?

/-- The double precision form of a single precision number, which is exact. -/
def ofBinary32 (x : Binary32) : Binary64 :=
  match x.datum with
  | .nan negative payload => notANumber negative (payload * Nat.pow 2 29)
  | .infinite negative => infinity negative
  | .finite negative m q => ofScaled negative m q

/-- The nearest single precision number. -/
def toBinary32 (x : Binary64) : Binary32 :=
  match x.datum with
  | .nan negative payload =>
      .ofPattern (FloatFormat.single.signPattern negative + FloatFormat.single.infinityPattern +
        FloatFormat.single.quieted (payload / Nat.pow 2 29))
  | .infinite negative =>
      .ofPattern (FloatFormat.single.signPattern negative + FloatFormat.single.infinityPattern)
  | .finite negative m q => .ofPattern (FloatFormat.single.roundScaled negative m q)

end Binary64

end StaticNet
