import StaticNet.Proofs.Outcome
import StaticNet.Proofs.Shape.Count
import StaticNet.Simplification.Bypass

/-! # Reshape targets that keep a shape

A reshape is bypassed when its target keeps every dimension of its input. Resolving such a target
gives the input's shape back, the inferred dimension included; and a target that gives the input's
shape back keeps every dimension, unless it leaves a dimension before the last to be inferred.
-/

namespace StaticNet.Shape

/-- A reshape succeeds when its target can be read and the element count comes out, with an inferred
dimension that divides it or without one. -/
theorem reshape_eq_ok_iff {source result : Shape} {target : List Int64} :
    source.reshape target = .ok result ↔
      ∃ dims, readTarget source target 0 false target = .ok dims ∧
        ((none ∈ dims ∧ elementCount (dims.filterMap id) ≠ 0 ∧
            source.elementCount % elementCount (dims.filterMap id) = 0 ∧
            result = dims.map fun dim =>
              dim.getD (source.elementCount / elementCount (dims.filterMap id))) ∨
          (none ∉ dims ∧ elementCount (dims.filterMap id) = source.elementCount ∧
            result = dims.filterMap id)) := by
  rw [reshape, Outcome.bind_eq_ok_iff]
  refine exists_congr fun dims => and_congr_right fun _ => ?_
  by_cases inferred : none ∈ dims
  · simp only [List.contains_eq_mem, inferred, decide_true, if_true, true_and, not_true_eq_false,
      false_and, or_false]
    split
    · next refused =>
      constructor
      · nofun
      · rintro ⟨nonzero, divides, -⟩
        exact (refused.elim nonzero (· divides)).elim
    · next accepted =>
      rw [not_or, not_not] at accepted
      simp only [pure, Except.pure, Except.ok.injEq, accepted, ne_eq, not_false_eq_true, true_and,
        eq_comm]
  · simp only [List.contains_eq_mem, inferred, decide_false, Bool.false_eq_true, if_false,
      false_and, false_or, not_false_eq_true, true_and]
    split
    · next changes =>
      constructor
      · nofun
      · rintro ⟨same, -⟩
        exact (changes same).elim
    · next same =>
      simp only [pure, Except.pure, Except.ok.injEq, not_not.mp same, true_and, eq_comm]

private theorem cons_eq_ok_iff {ε α : Type} {first : α} {others : Except ε (List α)}
    {read : List α} :
    List.cons first <$> others = .ok read ↔ ∃ dims, read = first :: dims ∧ others = .ok dims := by
  cases others with
  | error cause => simp
  | ok dims => simp [eq_comm]

/-- What an entry of a target is read as, and how the rest is read. -/
theorem readTarget_cons_eq_ok_iff {source : Shape} {target rest : List Int64} {entry : Int64}
    {index : Nat} {inferred : Bool} {read : List (Option Int64)} :
    readTarget source target index inferred (entry :: rest) = .ok read ↔
      ∃ dims, (entry = 0 ∧ (∃ copied, source[index]? = some copied ∧ read = some copied :: dims) ∧
            readTarget source target (index + 1) inferred rest = .ok dims) ∨
        (entry = -1 ∧ inferred = false ∧ read = none :: dims ∧
            readTarget source target (index + 1) true rest = .ok dims) ∨
        (0 < entry ∧ read = some entry :: dims ∧
            readTarget source target (index + 1) inferred rest = .ok dims) := by
  rw [readTarget]
  by_cases zero : entry = 0
  · subst zero
    cases source[index]? with
    | none => simp
    | some copied => simp [cons_eq_ok_iff]
  by_cases final : entry = -1
  · subst final
    cases inferred <;> simp [cons_eq_ok_iff]
  by_cases negative : entry < 0
  · simp [zero, final, negative, Int64.not_lt.mpr (Int64.le_of_lt negative)]
  · have positive : 0 < entry := Int64.lt_of_le_of_ne (Int64.not_lt.mp negative) (Ne.symm zero)
    simp [zero, final, negative, positive, cons_eq_ok_iff]

/-! ## Targets that keep every dimension -/

/-- A target that keeps every dimension is read as these dimensions, of which at most the last is
left to be inferred. -/
theorem readTarget_of_keptBy {source dims : Shape} {target entries : List Int64} {index : Nat}
    (positive : ∀ dim ∈ dims, 0 < dim) (rest : source.drop index = dims)
    (kept : keptBy dims entries = true) :
    ∃ read, readTarget source target index false entries = .ok read ∧
      (read = dims.map some ∨
        ∃ outer last, dims = outer ++ [last] ∧ read = outer.map some ++ [none]) := by
  induction dims generalizing index entries with
  | nil =>
    cases entries with
    | nil => exact ⟨[], rfl, .inl rfl⟩
    | cons entry entries => cases kept
  | cons dim dims ih =>
    cases entries with
    | nil => cases kept
    | cons entry entries =>
      obtain ⟨first, others⟩ := List.forall_mem_cons.mp positive
      have copied : source[index]? = some dim := by
        rw [← List.head?_drop, rest]
        rfl
      have tail : source.drop (index + 1) = dims := by
        rw [← List.tail_drop, rest]
        rfl
      simp only [keptBy, Bool.and_eq_true, Bool.or_eq_true, decide_eq_true_iff] at kept
      obtain ⟨entryKept, entriesKept⟩ := kept
      obtain ⟨read, done, form⟩ := ih others tail entriesKept
      have longer : some dim :: read = (dim :: dims).map some ∨ ∃ outer last,
          dim :: dims = outer ++ [last] ∧ some dim :: read = outer.map some ++ [none] := by
        rcases form with rfl | ⟨outer, last, rfl, rfl⟩
        · exact .inl rfl
        · exact .inr ⟨dim :: outer, last, rfl, rfl⟩
      rcases entryKept with (zero | ⟨final, empty⟩) | stated
      · exact ⟨_, readTarget_cons_eq_ok_iff.mpr ⟨read, .inl ⟨zero, ⟨dim, copied, rfl⟩, done⟩⟩,
          longer⟩
      · obtain rfl := List.isEmpty_iff.mp empty
        subst final
        cases dims with
        | nil => exact ⟨[none], rfl, .inr ⟨[], dim, rfl, rfl⟩⟩
        | cons next dims => cases entriesKept
      · subst stated
        exact ⟨_, readTarget_cons_eq_ok_iff.mpr ⟨read, .inr (.inr ⟨first, rfl, done⟩)⟩, longer⟩

/-- A target that reads as the dimensions of the source keeps them, unless it leaves one before the
last to be inferred. -/
theorem keptBy_of_readTarget {source : Shape} {target entries : List Int64} {index : Nat}
    {inferred : Bool} {read : List (Option Int64)} {quotient : Int64}
    (done : readTarget source target index inferred entries = .ok read)
    (same : read.map (·.getD quotient) = source.drop index) (final : -1 ∉ entries.dropLast) :
    keptBy (source.drop index) entries = true := by
  induction entries generalizing index inferred read with
  | nil =>
    cases done
    rw [← same]
    rfl
  | cons entry entries ih =>
    have later : -1 ∉ entries.dropLast := fun member => final (by
      cases entries with
      | nil => cases member
      | cons next entries => exact List.mem_cons_of_mem _ member)
    -- Whatever the entry says, the source begins with what it is read as.
    have shape (dim : Int64) (dims : List (Option Int64))
        (split : dim :: dims.map (·.getD quotient) = source.drop index)
        (kept : entry = 0 ∨ (entry = -1 ∧ entries = []) ∨ entry = dim)
        {inferred : Bool}
        (done : readTarget source target (index + 1) inferred entries = .ok dims) :
        keptBy (source.drop index) (entry :: entries) = true := by
      have tail : dims.map (·.getD quotient) = source.drop (index + 1) := by
        rw [← List.tail_drop, ← split]
        rfl
      have rest := ih done tail later
      rw [← tail] at rest
      rw [← split, keptBy, rest, Bool.and_true]
      simpa [or_assoc] using kept
    obtain ⟨dims, ⟨zero, ⟨copied, -, rfl⟩, others⟩ | ⟨stated, -, rfl, others⟩ |
      ⟨-, rfl, others⟩⟩ := readTarget_cons_eq_ok_iff.mp done
    · exact shape copied dims same (.inl zero) others
    · refine shape quotient dims same (.inr (.inl ⟨stated, ?_⟩)) others
      cases entries with
      | nil => rfl
      | cons next entries => exact absurd (stated ▸ List.mem_cons_self ..) final
    · exact shape entry dims same (.inr (.inr rfl)) others

/-! ## Resolving targets -/

private theorem quotient_of_size {outer : Nat} {last : Int64} (positive : 0 < outer)
    (natural : 0 < last) (fits : outer * last.toInt.toNat < 2 ^ 63) :
    Int64.ofNat outer ≠ 0 ∧ Int64.ofNat (outer * last.toInt.toNat) % Int64.ofNat outer = 0 ∧
      Int64.ofNat (outer * last.toInt.toNat) / Int64.ofNat outer = last := by
  have small : outer < 2 ^ 63 :=
    lt_of_le_of_lt (Nat.le_mul_of_pos_right outer (toNat_pos natural)) fits
  refine ⟨fun zero => ?_, ?_, ?_⟩
  · have value := congrArg Int64.toInt zero
    rw [Int64.toInt_ofNat_of_lt small, Int64.toInt_zero] at value
    omega
  · rw [← Int64.ofNat_mod fits small, Nat.mul_mod_right]
    rfl
  · rw [← Int64.ofNat_div fits small, Nat.mul_div_cancel_left _ positive,
      ofNat_toNat (Int64.le_of_lt natural)]

/-- Resolving a target that keeps every dimension gives the shape back, and a target that gives the
shape back keeps every dimension unless it leaves one before the last to be inferred. -/
theorem keptBy_reshape {source : Shape} {target : List Int64} (positive : ∀ dim ∈ source, 0 < dim)
    (fits : source.exactCount < 2 ^ 63) :
    (source.keptBy target = true → source.reshape target = .ok source) ∧
      (source.reshape target = .ok source → -1 ∉ target.dropLast →
        source.keptBy target = true) := by
  have natural : ∀ dim ∈ source, 0 ≤ dim := fun dim member => Int64.le_of_lt (positive dim member)
  rw [exactCount_eq_size natural] at fits
  constructor
  · intro kept
    obtain ⟨read, done, form⟩ := readTarget_of_keptBy positive List.drop_zero kept
    refine reshape_eq_ok_iff.mpr ⟨read, done, ?_⟩
    rcases form with rfl | ⟨outer, last, rfl, rfl⟩
    · exact .inr (by simp)
    · obtain ⟨outerPositive, lastPositive⟩ := List.forall_mem_append.mp positive
      have lastPositive := lastPositive last (List.mem_singleton_self last)
      have known : ((outer.map some ++ [none]).filterMap id : Shape) = outer := by simp
      rw [size_append, size_cons, size_nil, Nat.mul_one] at fits
      obtain ⟨nonzero, divides, quotient⟩ :=
        quotient_of_size (size_pos outerPositive) lastPositive (by exact_mod_cast fits)
      rw [known, elementCount_eq_ofNat natural, elementCount_eq_ofNat fun dim member =>
        Int64.le_of_lt (outerPositive dim member), size_append, size_cons, size_nil, Nat.mul_one]
      exact .inl ⟨by simp, nonzero, divides, by rw [quotient]; simp⟩
  · intro resolved final
    obtain ⟨read, done, ⟨-, -, -, same⟩ | ⟨stated, -, same⟩⟩ := reshape_eq_ok_iff.mp resolved
    · exact keptBy_of_readTarget done same.symm final
    · have whole : read.map (·.getD 0) = source := by
        rw [same]
        clear same done
        induction read with
        | nil => rfl
        | cons dim read ih =>
          cases dim with
          | none => exact absurd (List.mem_cons_self ..) stated
          | some dim => simp [ih fun member => stated (List.mem_cons_of_mem _ member)]
      exact keptBy_of_readTarget done whole final

/-- A target with a copied, a stated and an inferred dimension keeps a shape. -/
theorem keptBy_reshape_inferred :
    keptBy [2, 3, 4] [0, 3, -1] = true ∧ reshape [2, 3, 4] [0, 3, -1] = .ok [2, 3, 4] ∧
      -1 ∉ ([0, 3, -1] : List Int64).dropLast := by
  have law := @keptBy_reshape [2, 3, 4] [0, 3, -1] (by simp) (by decide)
  have resolved := law.1 (by decide)
  exact ⟨law.2 resolved (by decide), resolved, by decide⟩

end StaticNet.Shape
