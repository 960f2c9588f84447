import Mathlib.Algebra.Order.Group.Unbundled.Int
import StaticNet.Proofs.Outcome
import StaticNet.Proofs.Storage.Validity

/-! # Layouts that fit

Buffers are laid out with machine words, so an offset or an end may wrap around. Rounding an offset
up with a bit mask is rounding over the integers, modulo the size of a word. A first offset or end
that wraps around becomes negative, and so does what is rounded up from it; validation then finds a
negative offset, or a negative total that the first region exceeds. So a layout is refused exactly
when a size is negative or the layout over the integers does not fit, and where it is accepted no
sum has wrapped around.
-/

namespace StaticNet

namespace Plan

variable {alignment offset : Int64}

/-! ## Powers of two -/

/-- A machine word is a power of two. -/
def PowerOfTwo (word : Int64) : Prop := ∃ exponent : Nat, word.toInt = 2 ^ exponent

theorem PowerOfTwo.pos (power : PowerOfTwo alignment) : 0 < alignment.toInt := by
  obtain ⟨exponent, same⟩ := power
  rw [same]
  exact Int.pow_pos (by decide)

theorem PowerOfTwo.exponent_le (power : PowerOfTwo alignment) :
    ∃ exponent ≤ 62, alignment.toInt = 2 ^ exponent := by
  obtain ⟨exponent, same⟩ := power
  have bound : (2 : Int) ^ exponent < 2 ^ 63 := same ▸ alignment.toInt_lt
  exact ⟨exponent, Nat.le_of_lt_succ ((pow_lt_pow_iff_right₀ (by decide)).mp bound), same⟩

/-- A power of two divides the halves of the range of a machine word. -/
theorem PowerOfTwo.dvd (power : PowerOfTwo alignment) : alignment.toInt ∣ 2 ^ 63 := by
  obtain ⟨exponent, small, same⟩ := power.exponent_le
  rw [same]
  exact pow_dvd_pow 2 (by omega)

private theorem toInt_eq_toNat {word : Int64} (natural : 0 ≤ word.toInt) :
    word.toInt = word.toBitVec.toNat := by
  rw [← Int64.toInt_toBitVec, BitVec.toInt_eq_toNat_cond] at natural ⊢
  omega

/-- The bit test finds the powers of two among the words that are not zero. -/
theorem isPowerOfTwo_iff {word : Int64} (nonzero : word ≠ 0) :
    isPowerOfTwo word = true ↔ PowerOfTwo word := by
  rw [isPowerOfTwo, Bool.and_eq_true, decide_eq_true_eq, decide_eq_true_eq, Int64.le_iff_toInt_le,
    Int64.toInt_zero]
  by_cases natural : 0 ≤ word.toInt
  · have value := toInt_eq_toNat natural
    have positive : word.toBitVec.toNat ≠ 0 := by
      intro zero
      rw [zero] at value
      exact nonzero (Int64.toInt_inj.mp value)
    have bits : word &&& (word - 1) = 0 ↔
        word.toBitVec.toNat &&& (word.toBitVec.toNat - 1) = 0 := by
      have less : (word.toBitVec - 1#64).toNat = word.toBitVec.toNat - 1 :=
        BitVec.toNat_sub_of_le (by rw [BitVec.le_def]; exact Nat.one_le_iff_ne_zero.mpr positive)
      rw [← Int64.toBitVec_inj, ← BitVec.toNat_inj, Int64.toBitVec_and, Int64.toBitVec_sub,
        BitVec.toNat_and]
      change _ &&& (word.toBitVec - 1#64).toNat = 0 ↔ _
      rw [less]
    rw [and_iff_right natural, bits, Nat.and_sub_one_eq_zero_iff_isPowerOfTwo positive, PowerOfTwo,
      value]
    refine exists_congr fun exponent => ?_
    exact_mod_cast Iff.rfl
  · refine iff_of_false (fun both => natural both.1) fun power => natural ?_
    exact power.pos.le

/-! ## Rounding up -/

/-- The first multiple of an alignment that is not before an offset, over the integers. -/
def roundUp (alignment offset : Int) : Int :=
  (offset + alignment - 1) / alignment * alignment

theorem dvd_roundUp (alignment offset : Int) : alignment ∣ roundUp alignment offset :=
  Int.dvd_mul_left ..

private theorem roundUp_eq (alignment offset : Int) :
    roundUp alignment offset =
      offset + alignment - 1 - (offset + alignment - 1) % alignment := by
  rw [roundUp, Int.emod_def, Int.mul_comm]
  omega

theorem le_roundUp {alignment : Int} (positive : 0 < alignment) (offset : Int) :
    offset ≤ roundUp alignment offset := by
  have rest := Int.emod_lt_of_pos (offset + alignment - 1) positive
  rw [roundUp_eq]
  omega

theorem roundUp_lt {alignment : Int} (positive : 0 < alignment) (offset : Int) :
    roundUp alignment offset < offset + alignment := by
  have rest := Int.emod_nonneg (offset + alignment - 1) positive.ne'
  rw [roundUp_eq]
  omega

/-- Clearing bits splits a word. -/
private theorem and_not_add_and (word mask : BitVec 64) :
    (word &&& ~~~mask) + (word &&& mask) = word := by
  rw [BitVec.add_eq_or_of_and_eq_zero]
  · ext index
    simp only [BitVec.getElem_or, BitVec.getElem_and, BitVec.getElem_not]
    cases word[index] <;> cases mask[index] <;> rfl
  · ext index
    simp only [BitVec.getElem_and, BitVec.getElem_not]
    cases word[index] <;> cases mask[index] <;> simp

/-- Nothing that divides a lower bound takes a number below it when the remainder is taken away. -/
private theorem le_sub_emod {divisor bound number : Int} (positive : 0 < divisor)
    (divides : divisor ∣ bound) (le : bound ≤ number) : bound ≤ number - number % divisor := by
  obtain ⟨quotient, rfl⟩ := divides
  have quotients : quotient ≤ number / divisor :=
    Int.le_ediv_of_mul_le positive (Int.mul_comm divisor quotient ▸ le)
  have products := Int.mul_le_mul_of_nonneg_left quotients positive.le
  rw [Int.emod_def]
  omega

/-- Wrapping around keeps the remainder of what divides the size of a word. -/
private theorem bmod_emod_of_dvd {divisor : Int} (divides : divisor ∣ 2 ^ 64) (number : Int) :
    number.bmod (2 ^ 64) % divisor = number % divisor := by
  rw [← Int.emod_emod_of_dvd _ divides, ← Int.emod_emod_of_dvd number divides]
  exact congrArg (· % divisor) Int.bmod_emod

/-- The bits below a power of two are the remainder. -/
private theorem toInt_and_pred (power : PowerOfTwo alignment) (word : Int64) :
    (word &&& (alignment - 1)).toInt = word.toInt % alignment.toInt := by
  obtain ⟨exponent, small, same⟩ := power.exponent_le
  have bits : alignment.toBitVec.toNat = 2 ^ exponent := by
    have value := toInt_eq_toNat power.pos.le
    rw [same] at value
    exact_mod_cast value.symm
  have mask : (alignment.toBitVec - 1#64).toNat = 2 ^ exponent - 1 := by
    rw [BitVec.toNat_sub_of_le, bits]
    · rfl
    · rw [BitVec.le_def, bits]
      exact Nat.one_le_two_pow
  have low : (word.toBitVec &&& (alignment.toBitVec - 1#64)).toNat =
      word.toBitVec.toNat % 2 ^ exponent := by
    rw [BitVec.toNat_and, mask, Nat.and_two_pow_sub_one_eq_mod]
  have less : word.toBitVec.toNat % 2 ^ exponent < 2 ^ 62 :=
    (Nat.mod_lt _ (Nat.two_pow_pos _)).trans_le (Nat.pow_le_pow_right (by decide) small)
  have remainder : word.toInt % 2 ^ exponent =
      ((word.toBitVec.toNat % 2 ^ exponent : Nat) : Int) := by
    rw [← Int64.toInt_toBitVec, BitVec.toInt_eq_toNat_bmod,
      bmod_emod_of_dvd (pow_dvd_pow 2 (by omega))]
    exact_mod_cast rfl
  rw [same, remainder, ← low, ← Int64.toInt_toBitVec, Int64.toBitVec_and, Int64.toBitVec_sub,
    BitVec.toInt_eq_toNat_cond]
  change (if 2 * (word.toBitVec &&& (alignment.toBitVec - 1#64)).toNat < 2 ^ 64 then _ else _) = _
  rw [if_pos (by omega)]
  rfl

/-- Clearing the bits below a power of two takes the remainder away. -/
theorem toInt_and_not (power : PowerOfTwo alignment) (word : Int64) :
    (word &&& ~~~(alignment - 1)).toInt = word.toInt - word.toInt % alignment.toInt := by
  have cleared : word &&& ~~~(alignment - 1) = word - (word &&& (alignment - 1)) := by
    rw [← Int64.toBitVec_inj, Int64.toBitVec_sub, Int64.toBitVec_and, Int64.toBitVec_and,
      Int64.toBitVec_not, BitVec.eq_sub_iff_add_eq]
    exact and_not_add_and ..
  have low := le_sub_emod power.pos (Int.dvd_neg.mpr power.dvd) word.le_toInt
  have rest := Int.emod_nonneg word.toInt power.pos.ne'
  have high := word.toInt_lt
  rw [cleared, Int64.toInt_sub, toInt_and_pred power, Int.bmod_eq_of_le (by omega) (by omega)]

/-- Rounding up with a bit mask is rounding up over the integers, modulo the size of a word. -/
theorem toInt_alignUp (power : PowerOfTwo alignment) (offset : Int64) :
    (alignUp alignment offset).toInt =
      (roundUp alignment.toInt offset.toInt).bmod (2 ^ 64) := by
  have divides : alignment.toInt ∣ 2 ^ 64 := power.dvd.trans (by decide)
  have sum : (offset + alignment - 1).toInt =
      (offset.toInt + alignment.toInt - 1).bmod (2 ^ 64) := by
    rw [Int64.toInt_sub, Int64.toInt_add]
    exact Int.bmod_sub_bmod ..
  have same : (offset + alignment - 1).toInt % alignment.toInt =
      (offset.toInt + alignment.toInt - 1) % alignment.toInt := by
    rw [sum, bmod_emod_of_dvd divides]
  have word := (alignUp alignment offset).toInt_lt
  have floor := (alignUp alignment offset).le_toInt
  calc (alignUp alignment offset).toInt
      = ((alignUp alignment offset).toInt).bmod (2 ^ 64) :=
        (Int.bmod_eq_of_le (by omega) (by omega)).symm
    _ = ((offset.toInt + alignment.toInt - 1).bmod (2 ^ 64) -
          (offset.toInt + alignment.toInt - 1) % alignment.toInt).bmod (2 ^ 64) := by
        rw [alignUp, toInt_and_not power, same, sum]
    _ = _ := by rw [Int.bmod_sub_bmod, roundUp_eq]

/-- Rounding up does not wrap around unless it ends at a negative offset. -/
theorem toInt_alignUp_of_nonneg (power : PowerOfTwo alignment) (natural : 0 ≤ offset.toInt)
    (aligned : 0 ≤ (alignUp alignment offset).toInt) :
    (alignUp alignment offset).toInt = roundUp alignment.toInt offset.toInt := by
  have rounded := le_roundUp power.pos offset.toInt
  have near := roundUp_lt power.pos offset.toInt
  have bound := offset.toInt_lt
  have wide := alignment.toInt_lt
  rw [toInt_alignUp power, Int.bmod_def] at aligned ⊢
  omega

/-- An offset that is negative by more than an alignment stays negative. -/
theorem toInt_alignUp_neg (power : PowerOfTwo alignment)
    (far : offset.toInt < -alignment.toInt) : (alignUp alignment offset).toInt < 0 := by
  have rounded := le_roundUp power.pos offset.toInt
  have near := roundUp_lt power.pos offset.toInt
  have floor := offset.le_toInt
  rw [toInt_alignUp power, Int.bmod_eq_of_le (by omega) (by omega)]
  omega

/-! ## Layouts over the integers -/

/-- The end of a layout from an offset on, over the integers. -/
def exactEnd (alignment : Int) : Int → List Buffer → Int
  | offset, [] => offset
  | offset, buffer :: rest =>
      exactEnd alignment (roundUp alignment offset + buffer.byteSize.toInt) rest

theorem le_exactEnd {alignment : Int} (positive : 0 < alignment) {buffers : List Buffer}
    (sizes : ∀ buffer ∈ buffers, 0 ≤ buffer.byteSize) (offset : Int) :
    offset ≤ exactEnd alignment offset buffers := by
  induction buffers generalizing offset with
  | nil => exact Int.le_refl offset
  | cons buffer rest ih =>
    obtain ⟨own, others⟩ := List.forall_mem_cons.mp sizes
    have size : 0 ≤ buffer.byteSize.toInt := Int64.le_iff_toInt_le.mp own
    have rounded := le_roundUp positive offset
    exact le_trans (by omega) (ih others (roundUp alignment offset + buffer.byteSize.toInt))

/-- The regions of a plan follow each other from an offset to the end of the arena. -/
structure Follows (start : Int) (plan : Plan) : Prop where
  inside : ∀ region ∈ plan.regions, start ≤ region.offset.toInt ∧ 0 ≤ region.size.toInt ∧
    region.exactStop ≤ plan.total.toInt
  before : plan.regions.Pairwise Region.Before

theorem Follows.sound {plan : Plan} (follows : plan.Follows 0) : plan.Sound :=
  ⟨follows.inside, follows.before.imp .inl⟩

theorem Follows.validate {plan : Plan} (follows : plan.Follows 0) : plan.validate = .ok () := by
  have stops : ∀ region ∈ plan.regions, region.stop.toInt = region.exactStop := by
    intro region member
    obtain ⟨offset, size, inside⟩ := follows.inside region member
    have bound := plan.total.toInt_lt
    rw [Region.toInt_stop_eq (Int64.le_iff_toInt_le.mpr offset) (Int64.le_iff_toInt_le.mpr size),
      if_pos (by omega)]
  have apart : plan.regions.Pairwise fun region next => region.stop ≤ next.offset :=
    follows.before.imp_of_mem fun member _ before =>
      Int64.le_iff_toInt_le.mpr ((stops _ member).trans_le before)
  have checked : ∀ region ∈ plan.regions, region.Checked plan.total := by
    intro region member
    obtain ⟨offset, size, inside⟩ := follows.inside region member
    exact ⟨Int64.le_iff_toInt_le.mpr offset, Int64.le_iff_toInt_le.mpr size,
      Int64.le_iff_toInt_le.mpr ((stops region member).trans_le inside)⟩
  rw [validate_eq_of_pairwise]
  · exact checkOrdered_eq_ok_iff.mpr ⟨checked, apart.isChain⟩
  · refine follows.before.imp_of_mem fun {region next} member _ before => ?_
    obtain ⟨-, size, -⟩ := follows.inside region member
    rw [Region.Before, Region.exactStop] at before
    exact Int64.le_iff_toInt_le.mpr (by omega)

/-- A layout that fits over the integers is the layout with machine words. -/
theorem follows_layOut (power : PowerOfTwo alignment) {buffers : List Buffer}
    (sizes : ∀ buffer ∈ buffers, 0 ≤ buffer.byteSize) (natural : 0 ≤ offset.toInt)
    (fits : exactEnd alignment.toInt offset.toInt buffers < 2 ^ 63) :
    (layOut alignment offset buffers).total.toInt =
        exactEnd alignment.toInt offset.toInt buffers ∧
      (layOut alignment offset buffers).Follows offset.toInt := by
  induction buffers generalizing offset with
  | nil => exact ⟨rfl, by simp [layOut], by simp [layOut]⟩
  | cons buffer rest ih =>
    obtain ⟨own, others⟩ := List.forall_mem_cons.mp sizes
    have size : 0 ≤ buffer.byteSize.toInt := Int64.le_iff_toInt_le.mp own
    have rounded := le_roundUp power.pos offset.toInt
    rw [exactEnd] at fits
    have later := le_exactEnd power.pos others
      (roundUp alignment.toInt offset.toInt + buffer.byteSize.toInt)
    have start : (alignUp alignment offset).toInt = roundUp alignment.toInt offset.toInt := by
      rw [toInt_alignUp power, Int.bmod_eq_of_le (by omega) (by omega)]
    have next : (alignUp alignment offset + buffer.byteSize).toInt =
        roundUp alignment.toInt offset.toInt + buffer.byteSize.toInt := by
      rw [Int64.toInt_add, start, Int.bmod_eq_of_le (by omega) (by omega)]
    rw [← next] at fits later
    obtain ⟨total, follows⟩ := ih others (by omega) fits
    rw [layOut, exactEnd, ← next]
    refine ⟨total, List.forall_mem_cons.mpr ⟨?_, fun region member => ?_⟩,
      List.pairwise_cons.mpr ⟨fun region member => ?_, follows.before⟩⟩
    · rw [Region.exactStop]
      dsimp only
      omega
    · obtain ⟨behind, extent, inside⟩ := follows.inside region member
      exact ⟨by omega, extent, inside⟩
    · obtain ⟨behind, -, -⟩ := follows.inside region member
      rw [Region.Before, Region.exactStop]
      dsimp only
      omega

/-- An aligned offset leaves room for one alignment more. -/
private theorem le_sub_of_dvd (power : PowerOfTwo alignment) {start : Int64}
    (aligned : alignment.toInt ∣ start.toInt) : start.toInt ≤ 2 ^ 63 - alignment.toInt := by
  have gap : 0 < 2 ^ 63 - start.toInt := by
    have bound := start.toInt_lt
    omega
  have room := Int.le_of_dvd gap (Int.dvd_sub power.dvd aligned)
  omega

theorem dvd_alignUp (power : PowerOfTwo alignment) (offset : Int64) :
    alignment.toInt ∣ (alignUp alignment offset).toInt := by
  rw [toInt_alignUp power]
  refine Int.dvd_of_emod_eq_zero ?_
  rw [bmod_emod_of_dvd (power.dvd.trans (by decide))]
  exact Int.emod_eq_zero_of_dvd (dvd_roundUp ..)

/-- A layout in which nothing has become negative fits over the integers. -/
theorem exactEnd_lt (power : PowerOfTwo alignment) {buffers : List Buffer}
    (natural : 0 ≤ offset.toInt)
    (regions : ∀ region ∈ (layOut alignment offset buffers).regions,
      0 ≤ region.offset.toInt ∧ 0 ≤ region.size.toInt)
    (total : 0 ≤ (layOut alignment offset buffers).total.toInt) :
    exactEnd alignment.toInt offset.toInt buffers < 2 ^ 63 := by
  induction buffers generalizing offset with
  | nil => exact offset.toInt_lt
  | cons buffer rest ih =>
    rw [layOut] at regions total
    obtain ⟨⟨aligned, size⟩, others⟩ := List.forall_mem_cons.mp regions
    dsimp only at aligned size total
    have step := power.pos
    have room := le_sub_of_dvd power (dvd_alignUp power offset)
    have start := toInt_alignUp_of_nonneg power natural aligned
    have extent := buffer.byteSize.toInt_lt
    have sum : (alignUp alignment offset + buffer.byteSize).toInt = _ := Int64.toInt_add ..
    rw [start, Int.bmod_def] at sum
    rw [start] at room aligned
    by_cases positive : 0 ≤ (alignUp alignment offset + buffer.byteSize).toInt
    · rw [exactEnd]
      have next : (alignUp alignment offset + buffer.byteSize).toInt =
          roundUp alignment.toInt offset.toInt + buffer.byteSize.toInt := by omega
      rw [← next]
      exact ih positive others total
    -- The end has wrapped around so far that rounding up does not bring it back.
    · have far : (alignUp alignment offset + buffer.byteSize).toInt < -alignment.toInt := by omega
      cases rest with
      | nil => exact absurd total positive
      | cons second rest =>
        rw [layOut] at others
        obtain ⟨behind, -⟩ := others _ List.mem_cons_self
        exact absurd behind (Int.not_le.mpr (toInt_alignUp_neg power far))

/-! ## Plans of buffers -/

/-- A layout has the regions of its buffers, in their order. -/
theorem map_regions_layOut (alignment offset : Int64) (buffers : List Buffer) :
    (layOut alignment offset buffers).regions.map (fun region => (region.name, region.size)) =
      buffers.map fun buffer => (buffer.name, buffer.byteSize) := by
  induction buffers generalizing offset with
  | nil => rfl
  | cons buffer rest ih => exact congrArg _ (ih _)

theorem dvd_offset_of_mem_layOut (power : PowerOfTwo alignment) {buffers : List Buffer}
    {region : Region} (member : region ∈ (layOut alignment offset buffers).regions) :
    alignment.toInt ∣ region.offset.toInt := by
  induction buffers generalizing offset with
  | nil => cases member
  | cons buffer rest ih =>
    rw [layOut] at member
    rcases List.mem_cons.mp member with rfl | later
    · exact dvd_alignUp power offset
    · exact ih later

/-- The sizes are not negative, and the layout over the integers ends within a machine word. -/
structure Fits (alignment : Int64) (buffers : List Buffer) : Prop where
  sizes : ∀ buffer ∈ buffers, 0 ≤ buffer.byteSize
  room : exactEnd alignment.toInt 0 buffers < 2 ^ 63

/-- Rounding zero up leaves it. -/
private theorem alignUp_zero (power : PowerOfTwo alignment) : alignUp alignment 0 = 0 := by
  have positive := power.pos
  have first : roundUp alignment.toInt 0 = 0 := by
    have rounded := le_roundUp positive 0
    have near := roundUp_lt positive 0
    have multiple := Int.emod_eq_zero_of_dvd (dvd_roundUp alignment.toInt 0)
    rwa [Int.emod_eq_of_lt rounded (by omega)] at multiple
  have value := toInt_alignUp power 0
  rw [Int64.toInt_zero, first] at value
  exact Int64.toInt_inj.mp value

theorem fits_of_validate (power : PowerOfTwo alignment) {buffers : List Buffer}
    (valid : (layOut alignment 0 buffers).validate = .ok ()) : Fits alignment buffers := by
  have checked := checked_of_validate valid
  have total : 0 ≤ (layOut alignment 0 buffers).total := by
    cases buffers with
    | nil => exact Int64.le_refl 0
    | cons buffer rest =>
      -- The first region starts at zero, so its end is its size and cannot wrap around.
      have first := checked ⟨buffer.name, alignUp alignment 0, buffer.byteSize⟩ List.mem_cons_self
      have stop := first.stop
      rw [Region.stop, alignUp_zero power, Int64.zero_add] at stop
      exact Int64.le_trans first.size stop
  refine ⟨fun buffer member => ?_, ?_⟩
  · have listed : (buffer.name, buffer.byteSize) ∈ buffers.map fun buffer =>
        (buffer.name, buffer.byteSize) := List.mem_map_of_mem member
    rw [← map_regions_layOut alignment 0] at listed
    obtain ⟨region, present, same⟩ := List.mem_map.mp listed
    obtain ⟨-, size⟩ := Prod.mk.inj same
    exact size ▸ (checked region present).size
  · refine @exactEnd_lt alignment 0 power buffers (Int.le_refl 0) (fun region member => ?_)
      (Int64.le_iff_toInt_le.mp total)
    exact ⟨Int64.le_iff_toInt_le.mp (checked region member).offset,
      Int64.le_iff_toInt_le.mp (checked region member).size⟩

/-- The alignment in effect is a power of two exactly when none is asked for or a power of two
is. -/
theorem powerOfTwo_alignmentOr_iff :
    PowerOfTwo (alignmentOr alignment) ↔ alignment = 0 ∨ PowerOfTwo alignment := by
  rw [alignmentOr]
  split
  · next default => exact iff_of_true ⟨2, rfl⟩ (.inl default)
  · next given => exact (or_iff_right given).symm

theorem ofBuffers_eq_ok_iff {buffers : List Buffer} {plan : Plan} :
    ofBuffers alignment buffers = .ok plan ↔ PowerOfTwo (alignmentOr alignment) ∧
      plan = layOut (alignmentOr alignment) 0 (buffers.filter Buffer.isOwned) ∧
        plan.validate = .ok () := by
  have nonzero : alignmentOr alignment ≠ 0 := by
    rw [alignmentOr]
    split
    · decide
    · next given => exact given
  rw [ofBuffers, ← isPowerOfTwo_iff nonzero]
  constructor
  · intro done
    obtain ⟨power, rest⟩ := Outcome.of_refusal done
    obtain ⟨⟨⟩, valid, same⟩ := Outcome.bind_eq_ok_iff.mp rest
    cases same
    exact ⟨by simpa using power, rfl, valid⟩
  · rintro ⟨power, rfl, valid⟩
    rw [power]
    exact Outcome.bind_eq_ok_iff.mpr ⟨(), valid, rfl⟩

/-- A plan gives each buffer, in order, an aligned region of its size, and is sound. -/
structure Places (plan : Plan) (alignment : Int64) (buffers : List Buffer) : Prop where
  power : PowerOfTwo alignment
  regions : plan.regions.map (fun region => (region.name, region.size)) =
    buffers.map fun buffer => (buffer.name, buffer.byteSize)
  aligned : ∀ region ∈ plan.regions, alignment.toInt ∣ region.offset.toInt
  total : plan.total.toInt = exactEnd alignment.toInt 0 buffers
  sound : plan.Sound

/-- Every plan that is returned places the buffers that the network owns, whatever their sizes and
the alignment. A plan is returned exactly when the alignment is zero or a power of two, no size is
negative and the layout over the integers ends within a machine word. -/
theorem ofBuffers_places_iff_fits (alignment : Int64) (buffers : List Buffer) :
    (∀ plan, ofBuffers alignment buffers = .ok plan →
        plan.Places (alignmentOr alignment) (buffers.filter Buffer.isOwned)) ∧
      ((∃ plan, ofBuffers alignment buffers = .ok plan) ↔
        (alignment = 0 ∨ PowerOfTwo alignment) ∧
          Fits (alignmentOr alignment) (buffers.filter Buffer.isOwned)) := by
  have follows (power : PowerOfTwo (alignmentOr alignment))
      (fits : Fits (alignmentOr alignment) (buffers.filter Buffer.isOwned)) :=
    @follows_layOut _ 0 power _ fits.sizes (Int.le_refl 0) fits.room
  refine ⟨fun plan planned => ?_, ?_⟩
  · obtain ⟨power, rfl, valid⟩ := ofBuffers_eq_ok_iff.mp planned
    obtain ⟨total, inside⟩ := follows power (fits_of_validate power valid)
    exact ⟨power, map_regions_layOut .., fun _ => dvd_offset_of_mem_layOut power, total,
      inside.sound⟩
  · rw [← powerOfTwo_alignmentOr_iff]
    constructor
    · rintro ⟨plan, planned⟩
      obtain ⟨power, rfl, valid⟩ := ofBuffers_eq_ok_iff.mp planned
      exact ⟨power, fits_of_validate power valid⟩
    · rintro ⟨power, fits⟩
      exact ⟨_, ofBuffers_eq_ok_iff.mpr ⟨power, rfl, (follows power fits).2.validate⟩⟩

/-! ## A layout with padding and an empty buffer -/

/-- Three buffers of the network, one of which takes no bytes, and one of the caller. -/
def padded : List Buffer :=
  [⟨"a", "buffer_a", none, 6, .managed⟩, ⟨"x", "input_x", none, 36, .input⟩,
    ⟨"b", "buffer_b", none, 0, .managed⟩, ⟨"c", "buffer_c", none, 9223372036854775799, .managed⟩]

/-- With an alignment of 8 bytes the layout ends just within a machine word. With one of 16 bytes
it does not. -/
theorem ofBuffers_places_iff_fits_padded :
    (∃ plan, ofBuffers 8 padded = .ok plan ∧ plan.Places 8 (padded.filter Buffer.isOwned)) ∧
      ¬ ∃ plan, ofBuffers 16 padded = .ok plan := by
  obtain ⟨places, planned⟩ := ofBuffers_places_iff_fits 8 padded
  obtain ⟨plan, done⟩ := planned.mpr ⟨.inr ⟨3, rfl⟩, by decide, by decide⟩
  refine ⟨⟨plan, done, places plan done⟩, fun wide => ?_⟩
  have fits := ((ofBuffers_places_iff_fits 16 padded).2.mp wide).2
  exact absurd fits.room (by decide)

end Plan

end StaticNet
