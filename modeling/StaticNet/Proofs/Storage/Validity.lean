import Mathlib.Algebra.Order.Ring.Int
import Mathlib.Data.List.Chain
import StaticNet.Storage.Plan

/-! # What validation says about a plan

Validation sorts the regions by offset and compares the end of each with the total and with the
offset of the next one. Ends are machine sums. While they fit a machine word, neighbours that do
not overlap keep all regions apart. An end that does not fit has wrapped around to a negative
number, and a negative end passes both comparisons.
-/

namespace StaticNet

namespace Region

/-- The first byte after a region, as a number that does not wrap around. -/
def exactStop (region : Region) : Int := region.offset.toInt + region.size.toInt

/-- A region ends where another one starts, or before. -/
def Before (first second : Region) : Prop := first.exactStop ≤ second.offset.toInt

/-- One of two regions ends before the other starts, so that they have no byte in common. -/
def Apart (first second : Region) : Prop := first.Before second ∨ second.Before first

theorem Apart.symm {first second : Region} (apart : first.Apart second) : second.Apart first :=
  Or.symm apart

/-- Neither offset nor size are negative, and the end, as a machine sum, is inside the arena. -/
structure Checked (total : Int64) (region : Region) : Prop where
  offset : 0 ≤ region.offset
  size : 0 ≤ region.size
  stop : region.stop ≤ total

theorem toInt_stop_eq {region : Region} (offset : 0 ≤ region.offset) (size : 0 ≤ region.size) :
    region.stop.toInt =
      if region.exactStop < 2 ^ 63 then region.exactStop else region.exactStop - 2 ^ 64 := by
  have low : 0 ≤ region.offset.toInt := Int64.le_iff_toInt_le.mp offset
  have extent : 0 ≤ region.size.toInt := Int64.le_iff_toInt_le.mp size
  have high := region.offset.toInt_lt
  have wide := region.size.toInt_lt
  rw [stop, Int64.toInt_add, exactStop, Int.bmod_def]
  omega

/-- The end of a region inside the arena fits exactly when the exact end is inside, too. -/
theorem Checked.exactStop_le_iff {total : Int64} {region : Region}
    (checked : region.Checked total) :
    region.exactStop ≤ total.toInt ↔ region.exactStop < 2 ^ 63 := by
  have inside := Int64.le_iff_toInt_le.mp checked.stop
  have bound := total.toInt_lt
  rw [toInt_stop_eq checked.offset checked.size] at inside
  constructor
  · intro fits
    omega
  · intro fits
    rwa [if_pos fits] at inside

end Region

namespace Plan

/-- Over the integers, every region lies inside the arena, and no two regions overlap. -/
structure Sound (plan : Plan) : Prop where
  inside : ∀ region ∈ plan.regions, 0 ≤ region.offset.toInt ∧ 0 ≤ region.size.toInt ∧
    region.exactStop ≤ plan.total.toInt
  apart : plan.regions.Pairwise Region.Apart

/-! ## The check -/

/-- The check goes through exactly when every region passes on its own and none ends, as a machine
sum, after the offset of the next one. -/
theorem checkOrdered_eq_ok_iff {total : Int64} {regions : List Region} :
    checkOrdered total regions = .ok () ↔ (∀ region ∈ regions, region.Checked total) ∧
      regions.IsChain fun region next => region.stop ≤ next.offset := by
  induction regions with
  | nil => simp [checkOrdered]
  | cons region rest ih =>
    have own : region.Checked total ↔
        ¬ (region.offset < 0 ∨ region.size < 0) ∧ ¬ total < region.stop := by
      rw [not_or, Int64.not_lt, Int64.not_lt, Int64.not_lt]
      exact ⟨fun checked => ⟨⟨checked.offset, checked.size⟩, checked.stop⟩,
        fun ⟨⟨offset, size⟩, stop⟩ => ⟨offset, size, stop⟩⟩
    rw [checkOrdered.eq_def, List.forall_mem_cons, own]
    dsimp only
    split
    · next negative => simp [negative]
    · next natural =>
      split
      · next outside => simp [outside]
      · next inside =>
        cases rest with
        | nil => simp [natural, inside]
        | cons next others =>
          rw [List.isChain_cons_cons, ← Int64.not_lt]
          dsimp only
          split
          · next overlap => simp [overlap]
          · next apart => simp [natural, inside, apart, ih]

/-- Regions in order of their offsets are checked as they stand. -/
theorem validate_eq_of_pairwise {plan : Plan}
    (ascending : plan.regions.Pairwise fun region next => region.offset ≤ next.offset) :
    plan.validate = checkOrdered plan.total plan.regions := by
  rw [validate, ordered, List.mergeSort_of_pairwise]
  exact ascending.imp decide_eq_true

/-- A check that goes through keeps later regions behind earlier ones if no end wraps around. -/
theorem pairwise_before_of_isChain {total : Int64} {regions : List Region}
    (checked : ∀ region ∈ regions, region.Checked total)
    (chain : regions.IsChain fun region next => region.stop ≤ next.offset)
    (fits : ∀ region ∈ regions, region.exactStop < 2 ^ 63) :
    regions.Pairwise Region.Before := by
  induction regions with
  | nil => exact .nil
  | cons region rest ih =>
    obtain ⟨own, others⟩ := List.forall_mem_cons.mp checked
    obtain ⟨ends, othersEnd⟩ := List.forall_mem_cons.mp fits
    cases rest with
    | nil => exact List.pairwise_singleton ..
    | cons next rest =>
      obtain ⟨head, tail⟩ := List.isChain_cons_cons.mp chain
      have later := ih others tail othersEnd
      have neighbour : region.Before next := by
        have compared := Int64.le_iff_toInt_le.mp head
        rwa [Region.toInt_stop_eq own.offset own.size, if_pos ends] at compared
      refine List.pairwise_cons.mpr ⟨fun other member => ?_, later⟩
      rcases List.mem_cons.mp member with rfl | behind
      · exact neighbour
      · have nextBefore : next.exactStop ≤ other.offset.toInt :=
          List.rel_of_pairwise_cons later behind
        have nextSize : 0 ≤ next.size.toInt :=
          Int64.le_iff_toInt_le.mp (others next List.mem_cons_self).size
        rw [Region.exactStop] at nextBefore
        rw [Region.Before] at neighbour ⊢
        omega

/-- The regions of a plan that passes validation pass on their own. -/
theorem checked_of_validate {plan : Plan} (valid : plan.validate = .ok ()) :
    ∀ region ∈ plan.regions, region.Checked plan.total :=
  fun region member =>
    (checkOrdered_eq_ok_iff.mp valid).1 region (List.mem_mergeSort.mpr member)

/-- Whatever the order in which the check has gone through the regions, the plan is sound exactly
when all ends fit a machine word. -/
theorem sound_iff_of_checkOrdered {plan : Plan} {order : List Region}
    (same : order.Perm plan.regions) (valid : checkOrdered plan.total order = .ok ()) :
    plan.Sound ↔ ∀ region ∈ plan.regions, region.exactStop < 2 ^ 63 := by
  obtain ⟨checked, chain⟩ := checkOrdered_eq_ok_iff.mp valid
  have each : ∀ region ∈ plan.regions, region.Checked plan.total :=
    fun region member => checked region (same.mem_iff.mpr member)
  constructor
  · intro sound region member
    exact (each region member).exactStop_le_iff.mp (sound.inside region member).2.2
  · intro fits
    have before := pairwise_before_of_isChain checked chain
      fun region member => fits region (same.mem_iff.mp member)
    refine ⟨fun region member => ?_, ?_⟩
    · have own := each region member
      exact ⟨Int64.le_iff_toInt_le.mp own.offset, Int64.le_iff_toInt_le.mp own.size,
        own.exactStop_le_iff.mpr (fits region member)⟩
    · exact (same.pairwise_iff Region.Apart.symm).mp (before.imp .inl)

/-- A plan that passes validation is sound exactly when no region ends, over the integers, at
`2 ^ 63` or beyond. -/
theorem sound_iff_of_validate {plan : Plan} (valid : plan.validate = .ok ()) :
    plan.Sound ↔ ∀ region ∈ plan.regions, region.exactStop < 2 ^ 63 :=
  sound_iff_of_checkOrdered (List.mergeSort_perm ..) valid

/-! ## A plan that is valid and not sound -/

/-- A region whose end wraps around, and another one in the midst of it. -/
def wrapped : Plan := ⟨[⟨"a", 1, 9223372036854775807⟩, ⟨"b", 2, 4⟩], 8⟩

/-- The plan passes validation. Its first region leaves the arena and overlaps the second one. -/
theorem not_sound_wrapped : wrapped.validate = .ok () ∧ ¬ wrapped.Sound := by
  have valid : wrapped.validate = .ok () := validate_eq_of_pairwise (by decide)
  refine ⟨valid, fun sound => ?_⟩
  have fits := (sound_iff_of_validate valid).mp sound ⟨"a", 1, 9223372036854775807⟩ (by decide)
  exact absurd fits (by decide)

end Plan

end StaticNet
