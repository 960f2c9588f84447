import StaticNet.Proofs.Shape.Count
import StaticNet.Tensor.Basic

/-! # Access to the elements of a tensor

Elements are read at machine positions, one by one or in slices, and results are put together
position by position into room that is reserved first. Within the data, and as long as positions are
less than `2 ^ 63`, this is access to a list at natural positions.
-/

namespace StaticNet

variable {ε α : Type}

theorem toInt_toNat_ofNat {position : Nat} (fits : position < 2 ^ 63) :
    (Int64.ofNat position).toInt.toNat = position := by
  rw [Int64.toInt_ofNat_of_lt fits, Int.toNat_natCast]

theorem ofNat_nonneg {position : Nat} (fits : position < 2 ^ 63) : 0 ≤ Int64.ofNat position := by
  rw [Int64.le_iff_toInt_le, Int64.toInt_ofNat_of_lt fits, Int64.toInt_zero]
  exact Int.natCast_nonneg _

/-! ## Loops and reservations -/

theorem tabulateFrom_eq_ok {step : Int64 → Except ε α} {answer : Nat → α} {count start : Nat}
    (steps : ∀ position, start ≤ position → position < start + count →
      step (Int64.ofNat position) = .ok (answer position)) (done : List α) :
    tabulateFrom step count (Int64.ofNat start) done =
      .ok (done.reverse ++ (List.range' start count).map answer) := by
  induction count generalizing start done with
  | zero => simp [tabulateFrom]
  | succ count ih =>
    have next : Int64.ofNat start + 1 = Int64.ofNat (start + 1) := (Int64.ofNat_add start 1).symm
    rw [tabulateFrom, steps start (Nat.le_refl _) (by omega)]
    dsimp only
    rw [next, ih fun position above below => steps position (by omega) (by omega)]
    simp [List.range'_succ]

/-- A loop whose steps all succeed gives their results in order. -/
theorem tabulate_eq_ok {step : Int64 → Except ε α} {answer : Nat → α} {count : Nat}
    (steps : ∀ position < count, step (Int64.ofNat position) = .ok (answer position)) :
    tabulate count step = .ok ((List.range count).map answer) := by
  rw [tabulate, List.range_eq_range']
  exact @tabulateFrom_eq_ok ε α step answer count 0
    (fun position _ below => steps position (by omega)) []

theorem reserve_eq_ok_iff {elementSize room : Nat} {count : Int64} :
    reserve elementSize count = .ok room ↔
      0 ≤ count ∧ count.toInt.toNat * elementSize ≤ largestReservation ∧
        room = count.toInt.toNat := by
  rw [reserve]
  split
  · next refused =>
    refine ⟨nofun, fun ⟨natural, small, _⟩ => ?_⟩
    rcases refused with negative | large
    · exact absurd natural (Int64.not_le.mpr negative)
    · omega
  · next accepted =>
    rw [not_or, Int64.not_lt, Nat.not_lt] at accepted
    simp only [Except.ok.injEq, accepted, true_and, eq_comm]

/-! ## Elements and slices -/

theorem elementAt_eq_ok {data : List α} {position : Nat} {element : α}
    (found : data[position]? = some element) (fits : position < 2 ^ 63) :
    elementAt data.toArray (Int64.ofNat position) = .ok element := by
  rw [elementAt, if_neg (Int64.not_lt.mpr (ofNat_nonneg fits)), toInt_toNat_ofNat fits,
    List.getElem?_toArray, found]

/-- A slice within the data of a tensor. -/
theorem Tensor.slice_eq_ok {tensor : Tensor} {start stop : Nat} (ordered : start ≤ stop)
    (inside : stop ≤ tensor.data.length) (fits : stop < 2 ^ 63) :
    tensor.strip.slice (Int64.ofNat start) (Int64.ofNat stop) =
      .ok ((tensor.data.drop start).take (stop - start)) := by
  have startFits : start < 2 ^ 63 := by omega
  have span : (Int64.ofNat stop - Int64.ofNat start).toInt.toNat = stop - start := by
    rw [← Int64.ofNat_sub _ _ ordered, toInt_toNat_ofNat (by omega)]
  have stored : (tensor.strip.stored.extract start stop).toList =
      (tensor.data.drop start).take (stop - start) := by
    simp [Tensor.strip]
  have length : ((tensor.data.drop start).take (stop - start)).length = stop - start := by
    rw [List.length_take, List.length_drop]
    omega
  rw [Strip.slice, if_pos]
  · simp only [toInt_toNat_ofNat fits, toInt_toNat_ofNat startFits, span, stored, length,
      Nat.sub_self, List.replicate_zero, List.append_nil]
  · refine ⟨ofNat_nonneg startFits, ?_, ?_⟩
    · rw [Int64.le_iff_toInt_le, Int64.toInt_ofNat_of_lt fits, Int64.toInt_ofNat_of_lt startFits]
      omega
    · rw [Int64.toInt_ofNat_of_lt fits]
      simp only [Tensor.strip, List.size_toArray]
      omega

/-! ## Well-formed tensors -/

namespace Tensor

/-- No dimension is negative and there are as many elements as the dimensions ask for. -/
structure WellFormed (tensor : Tensor) : Prop where
  natural : ∀ dim ∈ tensor.dims, 0 ≤ dim
  filled : (tensor.data.length : Int) = tensor.dims.exactCount

instance (tensor : Tensor) : Decidable tensor.WellFormed :=
  decidable_of_iff
    (tensor.dims.all (0 ≤ ·) = true ∧ (tensor.data.length : Int) = tensor.dims.exactCount)
    ⟨fun ⟨natural, filled⟩ => ⟨Shape.forall_nonneg_iff.mpr natural, filled⟩,
      fun ⟨natural, filled⟩ => ⟨Shape.forall_nonneg_iff.mp natural, filled⟩⟩

theorem WellFormed.length_eq {tensor : Tensor} (wellFormed : tensor.WellFormed) :
    tensor.data.length = tensor.dims.size := by
  have filled := wellFormed.filled
  rw [Shape.exactCount_eq_size wellFormed.natural] at filled
  exact_mod_cast filled

end Tensor

end StaticNet
