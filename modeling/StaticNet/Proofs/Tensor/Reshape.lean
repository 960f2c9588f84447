import StaticNet.Proofs.Shape.Reshape
import StaticNet.Proofs.Tensor.Access

/-! # Reshapes and the number of elements

A reshape is refused when the machine product of the dimensions that its target gives is not the
element count, or does not divide it where one more dimension is to be inferred. As long as that
product fits a machine word this keeps the exact element count. A product that has wrapped around
may pass the test all the same: to the right count, or to a divisor of it, which may be negative and
then makes the inferred dimension negative, too.
-/

namespace StaticNet

namespace Shape

/-! ## What a target gives -/

/-- The dimension that an entry of a target gives at its index: the one that it states, or the one
that it copies. A dimension to be inferred is not given. -/
def givenAt (source : Shape) (entry : Int64 × Nat) : Option Int64 :=
  if entry.1 = 0 then source[entry.2]? else if entry.1 = -1 then none else some entry.1

/-- The dimensions that a target gives. -/
def given (source : Shape) (target : List Int64) : Shape :=
  target.zipIdx.filterMap source.givenAt

variable {source : Shape} {target entries : List Int64} {index : Nat} {inferred : Bool}
  {dims : List (Option Int64)}

theorem filterMap_readTarget (done : readTarget source target index inferred entries = .ok dims) :
    dims.filterMap id = (entries.zipIdx index).filterMap source.givenAt := by
  induction entries generalizing index inferred dims with
  | nil =>
    cases done
    rfl
  | cons entry entries ih =>
    obtain ⟨rest, ⟨rfl, ⟨copied, found, rfl⟩, others⟩ | ⟨rfl, -, rfl, others⟩ |
      ⟨positive, rfl, others⟩⟩ := readTarget_cons_eq_ok_iff.mp done
    · simpa [givenAt, found] using ih others
    · simpa [givenAt] using ih others
    · have stated : source.givenAt (entry, index) = some entry := by
        have copies : entry ≠ 0 := fun zero => absurd (zero ▸ positive) (by decide)
        have infers : entry ≠ -1 := fun final => absurd (final ▸ positive) (by decide)
        simp [givenAt, copies, infers]
      simpa [stated] using ih others

/-- The dimensions that are read from a target for a shape of positive dimensions are positive. -/
theorem positive_of_readTarget (positive : ∀ dim ∈ source, 0 < dim)
    (done : readTarget source target index inferred entries = .ok dims) :
    ∀ dim ∈ dims.filterMap id, 0 < dim := by
  induction entries generalizing index inferred dims with
  | nil =>
    cases done
    nofun
  | cons entry entries ih =>
    obtain ⟨rest, ⟨-, ⟨copied, found, rfl⟩, others⟩ | ⟨-, -, rfl, others⟩ |
      ⟨stated, rfl, others⟩⟩ := readTarget_cons_eq_ok_iff.mp done
    · exact List.forall_mem_cons.mpr ⟨positive _ (List.mem_of_getElem? found), ih others⟩
    · exact (ih others :)
    · exact List.forall_mem_cons.mpr ⟨stated, ih others⟩

/-- At most one dimension is left to be inferred, and none after another one. -/
theorem form_of_readTarget (done : readTarget source target index inferred entries = .ok dims) :
    (∃ known : Shape, dims = known.map some) ∨
      inferred = false ∧
        ∃ outer inner : Shape, dims = outer.map some ++ none :: inner.map some := by
  induction entries generalizing index inferred dims with
  | nil =>
    cases done
    exact .inl ⟨[], rfl⟩
  | cons entry entries ih =>
    have longer (dim : Int64) {rest : List (Option Int64)}
        (form : (∃ known : Shape, rest = known.map some) ∨ inferred = false ∧
          ∃ outer inner : Shape, rest = outer.map some ++ none :: inner.map some) :
        (∃ known : Shape, some dim :: rest = known.map some) ∨ inferred = false ∧
          ∃ outer inner : Shape, some dim :: rest = outer.map some ++ none :: inner.map some := by
      rcases form with ⟨known, rfl⟩ | ⟨first, outer, inner, rfl⟩
      · exact .inl ⟨dim :: known, rfl⟩
      · exact .inr ⟨first, dim :: outer, inner, rfl⟩
    obtain ⟨rest, ⟨-, ⟨copied, -, rfl⟩, others⟩ | ⟨-, first, rfl, others⟩ |
      ⟨-, rfl, others⟩⟩ := readTarget_cons_eq_ok_iff.mp done
    · exact longer copied (ih others)
    · rcases ih others with ⟨known, rfl⟩ | ⟨again, -⟩
      · exact .inr ⟨first, [], known, rfl⟩
      · cases again
    · exact longer entry (ih others)

/-! ## Products and quotients -/

private theorem factor_bounds {total known quotient : Int} (whole : 0 < total) (divisor : 0 < known)
    (product : known * quotient = total) : 0 < quotient ∧ known ≤ total ∧ quotient ≤ total := by
  have positive : 0 < quotient := pos_of_mul_pos_right (product ▸ whole) divisor.le
  refine ⟨positive, ?_, ?_⟩
  · rw [← product]
    exact le_mul_of_one_le_right divisor.le positive
  · rw [← product]
    exact le_mul_of_one_le_left positive.le divisor

/-- The quotient by the machine product of positive dimensions completes their exact product to the
dividend if and only if that product has not wrapped around. -/
theorem quotient_exact_iff {known : Shape} {total : Int64} (positive : ∀ dim ∈ known, 0 < dim)
    (whole : 0 < total.toInt) (divides : total % known.elementCount = 0) :
    0 ≤ total / known.elementCount ∧
        known.exactCount * (total / known.elementCount).toInt = total.toInt ↔
      known.exactCount < 2 ^ 63 := by
  have high := total.toInt_lt
  have product := exactCount_pos positive
  constructor
  · rintro ⟨-, same⟩
    obtain ⟨-, bound, -⟩ := factor_bounds whole product same
    omega
  · intro fits
    have value : known.elementCount.toInt = known.exactCount :=
      (toInt_elementCount_eq_iff fun dim member => Int64.le_of_lt (positive dim member)).mpr fits
    obtain ⟨quotient, same⟩ : known.exactCount ∣ total.toInt := by
      have rest := congrArg Int64.toInt divides
      rw [Int64.toInt_mod, value, Int64.toInt_zero] at rest
      exact Int.dvd_of_tmod_eq_zero rest
    obtain ⟨natural, -, bound⟩ := factor_bounds whole product same.symm
    have result : (total / known.elementCount).toInt = quotient := by
      rw [Int64.toInt_div, value, same, Int.mul_tdiv_cancel_left _ product.ne',
        Int.bmod_eq_of_le (by omega) (by omega)]
    rw [Int64.le_iff_toInt_le, Int64.toInt_zero, result]
    exact ⟨natural.le, same.symm⟩

/-! ## Rearranged shapes -/

/-- The second shape has room for exactly the elements of the first one: none of its dimensions is
negative, and the exact element count is the same. -/
structure Rearranges (source result : Shape) : Prop where
  natural : ∀ dim ∈ result, 0 ≤ dim
  count : result.exactCount = source.exactCount

/-- An inferred dimension has to complete the product of the given ones. -/
theorem rearranges_insert_iff {outer inner : Shape} {dim : Int64}
    (natural : ∀ dim ∈ outer ++ inner, 0 ≤ dim) :
    source.Rearranges (outer ++ dim :: inner) ↔
      0 ≤ dim ∧ exactCount (outer ++ inner) * dim.toInt = source.exactCount := by
  have count : exactCount (outer ++ dim :: inner) = exactCount (outer ++ inner) * dim.toInt := by
    rw [exactCount_append, exactCount_cons, exactCount_append, Int.mul_assoc,
      Int.mul_comm dim.toInt]
  rw [← count]
  constructor
  · rintro ⟨whole, same⟩
    exact ⟨whole dim (by simp), same⟩
  · rintro ⟨completes, same⟩
    refine ⟨fun other member => ?_, same⟩
    rcases List.mem_append.mp member with before | after
    · exact natural other (List.mem_append_left _ before)
    · rcases List.mem_cons.mp after with rfl | behind
      · exact completes
      · exact natural other (List.mem_append_right _ behind)

/-- What a shape of positive dimensions is reshaped to has room for exactly its elements if and only
if the exact product of the dimensions that the target gives fits a machine word. -/
theorem rearranges_iff {result : Shape} (positive : ∀ dim ∈ source, 0 < dim)
    (fits : source.exactCount < 2 ^ 63) (resolved : source.reshape target = .ok result) :
    source.Rearranges result ↔ (source.given target).exactCount < 2 ^ 63 := by
  have total : source.elementCount.toInt = source.exactCount :=
    (toInt_elementCount_eq_iff fun dim member => Int64.le_of_lt (positive dim member)).mpr fits
  obtain ⟨dims, done, outcome⟩ := reshape_eq_ok_iff.mp resolved
  have read : dims.filterMap id = source.given target := filterMap_readTarget done
  have stated := positive_of_readTarget positive done
  rw [read] at outcome stated
  have natural : ∀ dim ∈ source.given target, 0 ≤ dim :=
    fun dim member => Int64.le_of_lt (stated dim member)
  rcases outcome with ⟨missing, -, divides, rfl⟩ | ⟨-, same, rfl⟩
  · obtain ⟨known, rfl⟩ | ⟨-, outer, inner, rfl⟩ := form_of_readTarget done
    · simp at missing
    · have parts : outer ++ inner = source.given target := by
        rw [← read]
        simp
      rw [← parts] at stated natural divides ⊢
      rw [← quotient_exact_iff stated (total ▸ exactCount_pos positive) divides, total,
        ← rearranges_insert_iff natural]
      simp
  · rw [← toInt_elementCount_eq_iff natural, same, total]
    exact ⟨fun rearranged => rearranged.count.symm, fun exact => ⟨natural, exact.symm⟩⟩

end Shape

/-! ## Reshaped tensors -/

namespace Tensor

/-- A reshaped tensor keeps its elements, whatever its new shape. -/
theorem reshape_eq_ok_iff {tensor result : Tensor} {target : List Int64} :
    tensor.reshape target = .ok result ↔ ∃ dims, tensor.dims.reshape target = .ok dims ∧
      result = { tensor with shape := some dims, spare := 0 } := by
  rw [reshape, Outcome.bind_eq_ok_iff]
  refine exists_congr fun dims => and_congr Outcome.mapError_eq_ok_iff ?_
  simp only [pure, Except.pure, Except.ok.injEq, eq_comm]

/-- A successful reshape of positive dimensions keeps the exact element count, and the elements of a
well-formed tensor fill its new shape, if and only if the exact product of the dimensions that the
target gives fits a machine word. -/
theorem wellFormed_reshape_iff {source : Shape} {target : List Int64}
    (positive : ∀ dim ∈ source, 0 < dim) (fits : source.exactCount < 2 ^ 63) :
    (∀ result, source.reshape target = .ok result →
      (source.Rearranges result ↔ (source.given target).exactCount < 2 ^ 63)) ∧
    ∀ tensor result : Tensor, tensor.WellFormed → tensor.dims = source →
      tensor.reshape target = .ok result →
        result.data = tensor.data ∧
          (result.WellFormed ↔ (source.given target).exactCount < 2 ^ 63) := by
  refine ⟨fun result resolved => Shape.rearranges_iff positive fits resolved, ?_⟩
  rintro tensor result wellFormed rfl done
  obtain ⟨dims, resolved, rfl⟩ := reshape_eq_ok_iff.mp done
  refine ⟨rfl, ?_⟩
  rw [← Shape.rearranges_iff positive fits resolved]
  have full : (tensor.data.length : Int) = tensor.dims.exactCount := wellFormed.filled
  constructor
  · rintro ⟨natural, filled⟩
    exact ⟨natural, filled.symm.trans full⟩
  · rintro ⟨natural, count⟩
    exact ⟨natural, full.trans count.symm⟩

/-- A tensor of four zeros. -/
def fourZeros : Tensor :=
  { shape := some [4], type := .float32, data := List.replicate 4 (.zero false) }

/-- A stated dimension may wrap the product around to the count, and two of them to a negative
divisor. -/
theorem not_wellFormed_wrapped :
    fourZeros.WellFormed ∧
    (∃ result, fourZeros.reshape [4, 4611686018427387905] = .ok result ∧ ¬ result.WellFormed) ∧
    Shape.reshape [4] [4294967295, 4294967297, -1] = .ok [4294967295, 4294967297, -4] ∧
    ¬ Shape.Rearranges [4] [4294967295, 4294967297, -4] := by
  have wellFormed : fourZeros.WellFormed := by decide
  have positive : ∀ dim ∈ ([4] : Shape), 0 < dim := by simp
  refine ⟨wellFormed, ⟨_, rfl, fun filled => ?_⟩, rfl, fun rearranged => ?_⟩
  · have law := @wellFormed_reshape_iff [4] [4, 4611686018427387905] positive (by decide)
    exact absurd ((law.2 fourZeros _ wellFormed rfl rfl).2.mp filled) (by decide)
  · have law := @wellFormed_reshape_iff [4] [4294967295, 4294967297, -1] positive (by decide)
    exact absurd ((law.1 _ rfl).mp rearranged) (by decide)

end Tensor

end StaticNet
