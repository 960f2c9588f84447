/-! # Byte sequences

Bytes are kept as lists. Numbers are written with their least significant byte first.
-/

namespace StaticNet

/-- A sequence of bytes. -/
abbrev Bytes := List UInt8

namespace Bytes

/-- The lowest bytes of a natural, least significant first. -/
def ofNat : Nat → Nat → Bytes
  | 0, _ => []
  | width + 1, n => UInt8.ofNat n :: ofNat width (n / 256)

/-- The natural of bytes given least significant first. -/
def toNat : Bytes → Nat
  | [] => 0
  | byte :: rest => byte.toNat + 256 * toNat rest

/-- The four bytes of a word. -/
def ofWord (n : UInt32) : Bytes := ofNat 4 n.toNat

/-- Split into blocks of a positive width; a rest that fills no block is dropped. -/
def blocks (width : Nat) (bytes : Bytes) : List Bytes :=
  let block := bytes.take width
  if 0 < width ∧ width ≤ block.length then block :: blocks width (bytes.drop width)
  else []
termination_by bytes.length
decreasing_by
  rename_i filled
  have bound : width ≤ bytes.length := by
    have := filled.2
    simp only [block, List.length_take] at this
    omega
  simp only [List.length_drop]
  omega

@[simp] theorem length_ofNat (width n : Nat) : (ofNat width n).length = width := by
  induction width generalizing n with
  | zero => rfl
  | succ width ih => simp [ofNat, ih]

/-- Reading back a written number gives its remainder by the width. -/
theorem toNat_ofNat (width n : Nat) : toNat (ofNat width n) = n % Nat.pow 256 width := by
  induction width generalizing n with
  | zero => simp [ofNat, toNat, Nat.mod_one]
  | succ width ih =>
    rw [ofNat, toNat, ih, Nat.pow_eq, Nat.pow_eq, Nat.pow_succ', Nat.mod_mul]
    simp

end Bytes

end StaticNet
