import StaticNet.Storage.Pool

/-! # Results of logged computations

What a logged computation yields does not hang on the journal that it extends, so statements about
results leave journals out. A computation is taken apart step by step: when a sequence yields a
result, its first step yields the value that the next one starts from.
-/

namespace StaticNet

universe u

/-- A logged computation has a result for some journal. -/
def Logged.Yields {α : Type} (computation : Logged α) (result : α) : Prop :=
  ∃ journal, (computation.run journal).1 = result

namespace Logged.Yields

variable {α β ε : Type}

theorem of_run {computation : Logged α} {journal : Journal} {result : α}
    (run : (computation.run journal).1 = result) : computation.Yields result := ⟨journal, run⟩

theorem of_pure {value result : α} (yields : (pure value : Logged α).Yields result) :
    result = value := yields.choose_spec.symm

theorem of_bind {first : Logged α} {next : α → Logged β} {result : β}
    (yields : (first >>= next).Yields result) :
    ∃ value, first.Yields value ∧ (next value).Yields result := by
  obtain ⟨journal, run⟩ := yields
  exact ⟨_, ⟨journal, rfl⟩, ⟨(first.run journal).2, run⟩⟩

theorem of_report {entry : Entry} {next : Logged α} {result : α}
    (yields : (report entry >>= fun _ => next).Yields result) : next.Yields result := by
  obtain ⟨_, -, rest⟩ := of_bind yields
  exact rest

/-- A sequence that can fail and succeeds consists of steps that succeed. -/
theorem of_bind_ok {first : ExceptT ε Logged α} {next : α → ExceptT ε Logged β} {result : β}
    (yields : (first >>= next).run.Yields (.ok result)) :
    ∃ value, first.run.Yields (.ok value) ∧ (next value).run.Yields (.ok result) := by
  rw [ExceptT.run_bind] at yields
  obtain ⟨outcome, done, rest⟩ := of_bind yields
  cases outcome with
  | error cause => cases of_pure rest
  | ok value => exact ⟨value, done, rest⟩

theorem of_lift {computation : Logged α} {result : α}
    (yields : (liftM computation : ExceptT ε Logged α).run.Yields (.ok result)) :
    computation.Yields result := by
  obtain ⟨journal, run⟩ := yields
  exact ⟨journal, Except.ok.inj run⟩

theorem of_except {outcome : Except ε α} {result : α}
    (yields : (liftM outcome : ExceptT ε Logged α).run.Yields (.ok result)) :
    outcome = .ok result := (of_pure yields).symm

/-- What one step keeps, a sequence of steps keeps. -/
theorem foldlM_invariant {step : β → α → Logged β} {good : β → Prop}
    (keeps : ∀ state input next, good state → (step state input).Yields next → good next)
    {inputs : List α} {state final : β} (start : good state)
    (yields : (inputs.foldlM step state).Yields final) : good final := by
  induction inputs generalizing state with
  | nil => exact of_pure yields ▸ start
  | cons input rest ih =>
    rw [List.foldlM_cons] at yields
    obtain ⟨next, first, others⟩ := of_bind yields
    exact ih (keeps state input next start first) others

/-- What a step does to its input, and later steps leave so, has been done to every input. -/
theorem foldlM_each {step : β → α → Logged β} (good : β → Prop) (done : β → α → Prop)
    (keeps : ∀ state input next, good state → (step state input).Yields next →
      good next ∧ done next input ∧ ∀ other, done state other → done next other)
    {inputs : List α} {state final : β} (start : good state)
    (yields : (inputs.foldlM step state).Yields final) {input : α}
    (due : done state input ∨ input ∈ inputs) : done final input := by
  induction inputs generalizing state with
  | nil =>
    rw [of_pure yields]
    exact due.resolve_right List.not_mem_nil
  | cons first rest ih =>
    rw [List.foldlM_cons] at yields
    obtain ⟨next, visited, others⟩ := of_bind yields
    obtain ⟨kept, doneFirst, stays⟩ := keeps state first next start visited
    refine ih kept others ?_
    rcases due with earlier | listed
    · exact .inl (stays input earlier)
    · rcases List.mem_cons.mp listed with rfl | later
      · exact .inl doneFirst
      · exact .inr later

end Logged.Yields
end StaticNet
