import StaticNet.Bytes

/-! # Base 64

Bytes written as characters of six bits, four characters to three bytes. The last group may be
padded with equals signs.
-/

namespace StaticNet.Text

/-- The six bits that a character stands for. -/
def sixBits? (c : Char) : Option Nat :=
  if 'A' ≤ c ∧ c ≤ 'Z' then some (c.toNat - 'A'.toNat)
  else if 'a' ≤ c ∧ c ≤ 'z' then some (c.toNat - 'a'.toNat + 26)
  else if c.isDigit then some (c.toNat - '0'.toNat + 52)
  else if c = '+' then some 62
  else if c = '/' then some 63
  else none

/-- The bytes of groups of four characters. Bits that fill no byte are dropped. -/
def base64Groups? : List Char → Option Bytes
  | [] => some []
  | [a, b, '=', '='] => do
      let n := (← sixBits? a) * 64 + (← sixBits? b)
      return [UInt8.ofNat (n / 16)]
  | [a, b, c, '='] => do
      let n := ((← sixBits? a) * 64 + (← sixBits? b)) * 64 + (← sixBits? c)
      return [UInt8.ofNat (n / 1024), UInt8.ofNat (n / 4)]
  | a :: b :: c :: d :: rest => do
      let n := (((← sixBits? a) * 64 + (← sixBits? b)) * 64 + (← sixBits? c)) * 64 + (← sixBits? d)
      return UInt8.ofNat (n / 65536) :: UInt8.ofNat (n / 256) :: UInt8.ofNat n ::
        (← base64Groups? rest)
  | _ => none

/-- The bytes of a text in base 64. Line breaks between its characters do not count. -/
def base64? (s : String) : Option Bytes :=
  base64Groups? (s.toList.filter fun c => c ≠ '\n' && c ≠ '\r')

end StaticNet.Text
