/-! # Outcomes of computations that can fail

How a sequence of steps in `Except` ends well: each step does, with the result that the next one
starts from.
-/

namespace StaticNet.Outcome

universe u

variable {ε α β : Type u}

theorem bind_eq_ok_iff {first : Except ε α} {next : α → Except ε β} {result : β} :
    (first >>= next) = .ok result ↔ ∃ value, first = .ok value ∧ next value = .ok result := by
  cases first with
  | error cause => simp [bind, Except.bind]
  | ok value => simp [bind, Except.bind]

theorem bind_eq_error_iff {first : Except ε α} {next : α → Except ε β} {cause : ε} :
    (first >>= next) = .error cause ↔
      first = .error cause ∨ ∃ value, first = .ok value ∧ next value = .error cause := by
  cases first with
  | error other => simp [bind, Except.bind]
  | ok value => simp [bind, Except.bind]

/-- A computation that goes on past a refusal does not meet its condition. -/
theorem of_refusal {condition : Prop} [Decidable condition] {cause : ε}
    {next : PUnit → Except ε β} {result : β}
    (done : (if condition then throw cause >>= next else next ⟨⟩) = .ok result) :
    ¬ condition ∧ next ⟨⟩ = .ok result := by
  split at done
  · cases done
  · next unmet => exact ⟨unmet, done⟩

theorem map_eq_ok_iff {next : α → β} {outcome : Except ε α} {result : β} :
    outcome.map next = .ok result ↔ ∃ value, outcome = .ok value ∧ next value = result := by
  cases outcome with
  | error cause => simp [Except.map]
  | ok value => simp [Except.map]

theorem mapError_eq_ok_iff {ε' : Type u} {wrap : ε → ε'} {outcome : Except ε α} {result : α} :
    outcome.mapError wrap = .ok result ↔ outcome = .ok result := by
  cases outcome with
  | error cause => exact ⟨fun same => (nomatch same), fun same => (nomatch same)⟩
  | ok value =>
    constructor
    · rintro ⟨⟩
      rfl
    · rintro ⟨⟩
      rfl

theorem mapError_eq_error_iff {ε' : Type u} {wrap : ε → ε'} {outcome : Except ε α} {cause : ε'} :
    outcome.mapError wrap = .error cause ↔
      ∃ inner, outcome = .error inner ∧ wrap inner = cause := by
  cases outcome with
  | error inner =>
    constructor
    · rintro ⟨⟩
      exact ⟨inner, rfl, rfl⟩
    · rintro ⟨_, ⟨⟩, rfl⟩
      rfl
  | ok value => exact ⟨fun same => (nomatch same), fun ⟨_, same, _⟩ => (nomatch same)⟩

/-- A sequence that does not fail the way its first step can has gone on from there. -/
theorem of_bind_mapError {ε' : Type u} {wrap : ε' → ε} {first : Except ε' α} {next : α → Except ε β}
    {cause : ε} (failed : (first.mapError wrap >>= next) = .error cause)
    (other : ∀ inner, wrap inner ≠ cause) :
    ∃ value, first = .ok value ∧ next value = .error cause := by
  rcases bind_eq_error_iff.mp failed with stopped | ⟨value, passed, rest⟩
  · obtain ⟨inner, -, same⟩ := mapError_eq_error_iff.mp stopped
    exact absurd same (other inner)
  · exact ⟨value, mapError_eq_ok_iff.mp passed, rest⟩

/-- A computation that fails otherwise than by its refusal has gone on past it. -/
theorem of_refusal_error {condition : Prop} [Decidable condition] {refusal cause : ε}
    {next : PUnit → Except ε β}
    (failed : (if condition then throw refusal >>= next else next ⟨⟩) = .error cause)
    (other : refusal ≠ cause) : ¬ condition ∧ next ⟨⟩ = .error cause := by
  split at failed
  · exact absurd (Except.error.inj failed) other
  · next unmet => exact ⟨unmet, failed⟩

theorem toOption_eq_some_iff {outcome : Except ε α} {result : α} :
    outcome.toOption = some result ↔ outcome = .ok result := by
  cases outcome with
  | error cause => simp [Except.toOption]
  | ok value => simp [Except.toOption]

/-- An outcome that has a result is that result. -/
theorem eq_ok_get {outcome : Except ε α} (succeeds : outcome.toOption.isSome = true) :
    outcome = .ok (outcome.toOption.get succeeds) := by
  cases outcome with
  | error cause => cases succeeds
  | ok value => rfl

/-- An outcome whose result passes a test has a result. -/
theorem eq_ok_of_any {outcome : Except ε α} {test : α → Bool}
    (passes : outcome.toOption.any test = true) :
    ∃ result, outcome = .ok result ∧ test result = true := by
  cases outcome with
  | error cause => cases passes
  | ok value => exact ⟨value, rfl, passes⟩

/-- The test that an outcome passes is about its result. -/
theorem of_any {outcome : Except ε α} {test : α → Bool} {result : α}
    (passes : outcome.toOption.any test = true) (succeeds : outcome = .ok result) :
    test result = true := by
  subst succeeds
  exact passes

/-- Steps that succeed exactly on some inputs succeed together exactly when all inputs are such. -/
theorem mapM_eq_ok_iff {step : α → Except ε β} {good : α → Prop} {answer : α → β}
    (stepwise : ∀ input result, step input = .ok result ↔ good input ∧ result = answer input)
    (inputs : List α) (results : List β) :
    inputs.mapM step = .ok results ↔
      (∀ input ∈ inputs, good input) ∧ results = inputs.map answer := by
  induction inputs generalizing results with
  | nil => simp [pure, Except.pure, eq_comm]
  | cons input rest ih =>
    simp only [List.mapM_cons, bind_eq_ok_iff, stepwise, ih, pure, Except.pure, Except.ok.injEq,
      List.forall_mem_cons, List.map_cons]
    grind

/-- Steps that all succeed give their answers in order. -/
theorem mapM_eq_ok {step : α → Except ε β} {answer : α → β} {inputs : List α}
    (steps : ∀ input ∈ inputs, step input = .ok (answer input)) :
    inputs.mapM step = .ok (inputs.map answer) := by
  induction inputs with
  | nil => rfl
  | cons input rest ih =>
    obtain ⟨first, others⟩ := List.forall_mem_cons.mp steps
    rw [List.mapM_cons, first, ih others]
    rfl

/-- Steps fail together with the failure of the first one that fails. -/
theorem mapM_eq_error_iff {step : α → Except ε β} {inputs : List α} {cause : ε} :
    inputs.mapM step = .error cause ↔ ∃ before input after, inputs = before ++ input :: after ∧
      (∀ earlier ∈ before, ∃ result, step earlier = .ok result) ∧ step input = .error cause := by
  induction inputs with
  | nil => simp [pure, Except.pure]
  | cons first rest ih =>
    rw [List.mapM_cons, bind_eq_error_iff]
    constructor
    · rintro (fails | ⟨result, passes, others⟩)
      · exact ⟨[], first, rest, rfl, by simp, fails⟩
      · rcases bind_eq_error_iff.mp others with fails | ⟨results, -, impossible⟩
        · obtain ⟨before, input, after, rfl, earlier, stops⟩ := ih.mp fails
          exact ⟨first :: before, input, after, rfl,
            List.forall_mem_cons.mpr ⟨⟨result, passes⟩, earlier⟩, stops⟩
        · cases impossible
    · rintro ⟨before, input, after, same, earlier, stops⟩
      cases before with
      | nil =>
        obtain ⟨rfl, rfl⟩ := List.cons.inj same
        exact .inl stops
      | cons head before =>
        obtain ⟨rfl, rfl⟩ := List.cons.inj same
        obtain ⟨⟨result, passes⟩, earlier⟩ := List.forall_mem_cons.mp earlier
        exact .inr ⟨result, passes, bind_eq_error_iff.mpr
          (.inl (ih.mpr ⟨before, input, after, rfl, earlier, stops⟩))⟩

end StaticNet.Outcome
