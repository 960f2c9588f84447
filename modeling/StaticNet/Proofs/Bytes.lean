import Mathlib.Data.List.Basic
import StaticNet.Bytes

/-! # Words and blocks

Numbers and the bytes that write them determine each other, and numbers of a fixed width that stand
one behind the other are the blocks of their bytes.
-/

namespace StaticNet.Bytes

@[simp] theorem length_ofWord (word : UInt32) : (ofWord word).length = 4 := length_ofNat _ _

theorem toNat_ofWord (word : UInt32) : toNat (ofWord word) = word.toNat := by
  rw [ofWord, toNat_ofNat]
  exact Nat.mod_eq_of_lt word.toNat_lt

theorem toNat_ofLong (n : UInt64) : toNat (ofNat 8 n.toNat) = n.toNat := by
  rw [toNat_ofNat]
  exact Nat.mod_eq_of_lt n.toNat_lt

theorem toNat_lt (bytes : Bytes) : toNat bytes < Nat.pow 256 bytes.length := by
  induction bytes with
  | nil => exact Nat.one_pos
  | cons byte rest ih =>
    have bound := byte.toNat_lt
    have power : Nat.pow 256 (rest.length + 1) = Nat.pow 256 rest.length * 256 := rfl
    rw [toNat, List.length_cons, power]
    omega

/-- Writing back a number that was read gives its bytes. -/
theorem ofNat_toNat (bytes : Bytes) : ofNat bytes.length (toNat bytes) = bytes := by
  induction bytes with
  | nil => rfl
  | cons byte rest ih =>
    have bound := byte.toNat_lt
    have low : UInt8.ofNat (byte.toNat + 256 * toNat rest) = byte := by
      rw [← UInt8.toNat_inj, UInt8.toNat_ofNat']
      omega
    have high : (byte.toNat + 256 * toNat rest) / 256 = toNat rest := by omega
    rw [toNat, List.length_cons, ofNat, low, high, ih]

theorem ofWord_toNat {block : Bytes} (full : block.length = 4) :
    ofWord (UInt32.ofNat block.toNat) = block := by
  have small : block.toNat < UInt32.size := by
    have bound := toNat_lt block
    rwa [full] at bound
  rw [ofWord, UInt32.toNat_ofNat_of_lt' small, ← full, ofNat_toNat]

theorem blocks_append {width : Nat} (positive : 0 < width) {block : Bytes}
    (full : block.length = width) (rest : Bytes) :
    blocks width (block ++ rest) = block :: blocks width rest := by
  rw [blocks, List.take_left' full, List.drop_left' full, if_pos ⟨positive, Nat.le_of_eq full.symm⟩]

section Flat

variable {α : Type} {width : Nat} {encode : α → Bytes}

theorem length_flatMap_encode (full : ∀ value, (encode value).length = width) (values : List α) :
    (values.flatMap encode).length = width * values.length := by
  induction values with
  | nil => rfl
  | cons value rest ih =>
    rw [List.flatMap_cons, List.length_append, full, ih, List.length_cons, Nat.mul_succ,
      Nat.add_comm]

theorem blocks_flatMap (positive : 0 < width) (full : ∀ value, (encode value).length = width)
    (values : List α) : blocks width (values.flatMap encode) = values.map encode := by
  induction values with
  | nil =>
    rw [List.flatMap_nil, blocks]
    exact if_neg (by simp only [List.take_nil, List.length_nil]; omega)
  | cons value rest ih =>
    rw [List.flatMap_cons, blocks_append positive (full value), ih, List.map_cons]

end Flat

end StaticNet.Bytes
