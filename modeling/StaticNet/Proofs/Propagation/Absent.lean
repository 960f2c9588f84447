import StaticNet.Proofs.Dict
import StaticNet.Proofs.Graph.View
import StaticNet.Proofs.Logged

/-! # Nothing is known about the absent tensor

Propagation records nothing under the empty name, so that what it knows about the absent tensor at
the end it has known from the start. That is no value unless a constant is nameless.
-/

namespace StaticNet

namespace Propagator

variable {propagator : Propagator} {graph : Graph}

theorem absent_record (progress : Progress) (tensor : String) (next : Knowledge) :
    (record graph progress tensor next).states.get? "" = progress.states.get? "" := by
  by_cases absent : tensor = ""
  · simp [record, absent]
  · have other : "" ≠ tensor := Ne.symm absent
    simp only [record, absent, decide_false, Bool.false_or]
    split
    · next previous _ =>
      by_cases unchanged : previous.agrees next = true <;> simp [unchanged, other]
    · by_cases unchanged : next.isKnown = true <;> simp [unchanged, other]

theorem absent_recordAll (node : Node) (results : List Knowledge) (progress : Progress) :
    (recordAll graph node results progress).states.get? "" = progress.states.get? "" := by
  rw [recordAll]
  refine List.foldlRecOn (motive := fun next : Progress =>
    next.states.get? "" = progress.states.get? "") _ _ rfl ?_
  intro next kept output _
  rw [absent_record, kept]

private theorem absent_noteUnhandled {node : Node} {progress next : Progress}
    (yields : (noteUnhandled propagator node progress).Yields next) :
    next.states = progress.states := by
  rw [noteUnhandled] at yields
  split at yields
  · rw [Logged.Yields.of_pure yields]
  · rw [Logged.Yields.of_pure (Logged.Yields.of_report yields)]

theorem absent_visit {node : Node} {progress next : Progress}
    (yields : (propagator.visit graph node progress).run.Yields (.ok next)) :
    next.states.get? "" = progress.states.get? "" := by
  obtain ⟨noted, noting, rest⟩ := Logged.Yields.of_bind_ok yields
  rw [← absent_noteUnhandled (Logged.Yields.of_lift noting)]
  split at rest
  · cases Logged.Yields.of_pure rest
    exact absent_recordAll node _ noted
  · cases Logged.Yields.of_pure rest
  · obtain ⟨_, -, last⟩ := Logged.Yields.of_bind_ok rest
    cases Logged.Yields.of_pure last
    exact absent_recordAll node _ noted

/-- What is kept when an id is passed over and when a node is visited holds when the loop ends, and
then nothing is queued. -/
theorem loop_induction (good : Progress → Prop)
    (skip : ∀ (progress : Progress) (id : Nat) (queue : List Nat), progress.queue = id :: queue →
      graph.node? id = none → good progress → good { progress with queue })
    (visit : ∀ (progress next : Progress) (id : Nat) (queue : List Nat) (node : Node),
      progress.queue = id :: queue → graph.node? id = some node →
        (propagator.visit graph node { progress with queue }).run.Yields (.ok next) →
          good progress → good next)
    {limit fuel : Nat} {progress : Progress} {outcome : Progress × Nat} (start : good progress)
    (yields : (loop propagator graph limit fuel progress).run.Yields (.ok outcome)) :
    good outcome.1 ∧ outcome.1.queue = [] := by
  fun_induction loop propagator graph limit fuel progress with
  | case1 progress left empty =>
    cases Logged.Yields.of_pure yields
    exact ⟨start, empty⟩
  | case2 => cases Logged.Yields.of_pure yields
  | case3 progress id queue left front _ gone ih =>
    exact ih (skip progress id queue front gone start) yields
  | case4 progress id queue left front _ node found ih =>
    obtain ⟨next, visited, rest⟩ := Logged.Yields.of_bind_ok yields
    exact ih next (visit progress next id queue node front found visited start) rest

/-- What every visit keeps of the knowledge holds of the result of a run. -/
theorem run_invariant (good : Dict Knowledge → Prop)
    (visit : ∀ node ∈ graph.live, ∀ progress next : Progress,
      (propagator.visit graph node progress).run.Yields (.ok next) → good progress.states →
        good next.states)
    {propagation : Propagation} (start : good (initialStates graph))
    (yields : (propagator.run graph).run.Yields (.ok propagation)) : good propagation.states := by
  obtain ⟨⟨progress, visits⟩, looped, rest⟩ := Logged.Yields.of_bind_ok yields
  cases Logged.Yields.of_pure rest
  refine (loop_induction (fun progress => good progress.states) (fun _ _ _ _ _ kept => kept)
    (fun progress next id queue node _ found visited kept => ?_) start looped).1
  exact visit node (Graph.mem_live_iff.mpr ⟨id, found⟩) { progress with queue } next visited kept

/-- The absent tensor has no known value when no constant is nameless. -/
theorem absent_run {propagation : Propagation}
    (yields : (propagator.run graph).run.Yields (.ok propagation))
    (named : graph.isConstant "" = false) : (propagation.state "").value? = none := by
  have kept : propagation.states.get? "" = (initialStates graph).get? "" :=
    run_invariant (fun states => states.get? "" = (initialStates graph).get? "")
      (fun _ _ _ _ visited same => (absent_visit visited).trans same) rfl yields
  rw [Propagation.state, kept]
  cases found : (initialStates graph).get? "" with
  | none => rfl
  | some knowledge =>
    rcases List.mem_append.mp (Dict.mem_of_get?_ofList found) with constant | input
    · obtain ⟨⟨name, value⟩, member, pair⟩ := List.mem_map.mp constant
      obtain ⟨rfl, -⟩ := Prod.mk.inj pair
      rw [Graph.isConstant_eq_false_iff] at named
      have different := List.lookup_eq_none_iff.mp named ("", value) member
      simp at different
    · obtain ⟨edge, -, same⟩ := List.mem_filterMap.mp input
      obtain ⟨shape, -, pair⟩ := Option.map_eq_some_iff.mp same
      obtain ⟨-, rfl⟩ := Prod.mk.inj pair
      rfl

end Propagator

end StaticNet
