import Mathlib.Algebra.BigOperators.Fin
import Mathlib.Logic.Relation
import StaticNet.Proofs.Program.Rendering

/-! # Batches run by several workers

The caller starts the jobs in index order, each as soon as a worker is free. A job that has been
started looks at the context, runs, and hands over its outcome; the first failure that is handed
over is kept, and cancels the context at some later time. A job may answer anything once the context
is cancelled. All these steps interleave in any way. Small batches, and batches for one worker, run
in order instead.
-/

namespace StaticNet

/-- The number of jobs that run at a time on a machine with so many workers. -/
def BatchSettings.workersOn (settings : BatchSettings) (machine : Nat) : Nat :=
  if settings.workers ≤ 0 then machine else settings.workers.toNat

theorem BatchSettings.workersOn_pos (settings : BatchSettings) {machine : Nat}
    (positive : 0 < machine) : 0 < settings.workersOn machine := by
  rw [workersOn]
  split <;> omega

namespace Batch

/-- Whether so many jobs run in order on a machine with so many workers. -/
def RunsInOrder (settings : BatchSettings) (machine jobs : Nat) : Prop :=
  settings.workersOn machine = 1 ∨ (jobs : Int) < settings.leastJobs

theorem isSequential_iff (settings : BatchSettings) (jobs : Nat) :
    isSequential settings jobs = true ↔ RunsInOrder settings machineWorkers.toNat jobs := by
  rw [isSequential, RunsInOrder, BatchSettings.workersOn, Bool.or_eq_true, decide_eq_true_eq,
    decide_eq_true_eq]
  refine or_congr ?_ Iff.rfl
  split
  · decide
  · omega

/-! ## Jobs and workers -/

variable {ε α : Type} {count : Nat}

/-- How far a job has come: its turn has not come, it has been started, it runs, it has an outcome,
and the outcome has been handed over. -/
inductive Stage (ε α : Type) where
  | waiting
  | started
  | running
  | returned (outcome : Except (BatchError ε) α)
  | done (outcome : Except (BatchError ε) α)

namespace Stage

/-- Whether a job holds a worker. -/
def isHolding : Stage ε α → Bool
  | started | running | returned _ => true
  | waiting | done _ => false

/-- The number of steps that a job has yet to take before it frees its worker. -/
def stepsLeft : Stage ε α → Nat
  | started => 3
  | running => 2
  | returned _ => 1
  | waiting | done _ => 0

/-- The result of a job that has succeeded. -/
def result? : Stage ε α → Option α
  | done (.ok result) => some result
  | _ => none

end Stage

/-- The failure in an outcome. -/
def failure? : Except (BatchError ε) α → Option (BatchError ε)
  | .ok _ => none
  | .error cause => some cause

/-- A batch in progress: the stage of each job, the number of jobs that have been started, the
calls made so far, the first failure, and whether the context is cancelled. -/
structure Crew (ε α : Type) (count : Nat) where
  stages : Fin count → Stage ε α
  started : Nat
  calls : List (Fin count)
  failure : Option (BatchError ε)
  cancelled : Bool

namespace Crew

/-- The batch before its first step. -/
def start : Crew ε α count := ⟨fun _ => .waiting, 0, [], none, false⟩

/-- The number of workers at work. -/
def holding (crew : Crew ε α count) : Nat :=
  (Finset.univ.filter fun index => (crew.stages index).isHolding = true).card

/-- Take a job to another stage. -/
def move (crew : Crew ε α count) (index : Fin count) (stage : Stage ε α) : Crew ε α count :=
  { crew with stages := Function.update crew.stages index stage }

theorem stages_move (crew : Crew ε α count) (index other : Fin count) (stage : Stage ε α) :
    (crew.move index stage).stages other = if other = index then stage else crew.stages other :=
  Function.update_apply ..

/-- All jobs have been started, and all have handed over their outcomes. -/
def Ended (crew : Crew ε α count) : Prop :=
  crew.started = count ∧ ∀ index, ∃ outcome, crew.stages index = .done outcome

end Crew

/-- One step of a batch. -/
inductive Step (workers : Nat) (job : Fin count → Except ε α) :
    Crew ε α count → Crew ε α count → Prop where
  | start {crew : Crew ε α count} (more : crew.started < count) (free : crew.holding < workers) :
      Step workers job crew
        { crew.move ⟨crew.started, more⟩ .started with started := crew.started + 1 }
  | call {crew : Crew ε α count} {index : Fin count} (stage : crew.stages index = .started)
      (live : crew.cancelled = false) :
      Step workers job crew { crew.move index .running with calls := crew.calls ++ [index] }
  | refuse {crew : Crew ε α count} {index : Fin count} (stage : crew.stages index = .started)
      (cancelled : crew.cancelled = true) :
      Step workers job crew (crew.move index (.returned (.error .cancelled)))
  | answer {crew : Crew ε α count} {index : Fin count} {outcome : Except (BatchError ε) α}
      (stage : crew.stages index = .running)
      (live : crew.cancelled = false → outcome = (job index).mapError .job) :
      Step workers job crew (crew.move index (.returned outcome))
  | handOver {crew : Crew ε α count} {index : Fin count} {outcome : Except (BatchError ε) α}
      (stage : crew.stages index = .returned outcome) :
      Step workers job crew { crew.move index (.done outcome) with
        failure := crew.failure.or (failure? outcome) }
  | cancel {crew : Crew ε α count} (failed : crew.failure.isSome = true)
      (live : crew.cancelled = false) : Step workers job crew { crew with cancelled := true }

/-! ## Every run ends -/

variable {workers : Nat} {job : Fin count → Except ε α}

/-- A bound on the number of steps that are left. -/
def Crew.stepsLeft (crew : Crew ε α count) : Nat :=
  4 * (count - crew.started) + ∑ index, (crew.stages index).stepsLeft +
    if crew.cancelled then 0 else 1

private theorem stepsLeft_move (crew : Crew ε α count) (index : Fin count) (stage : Stage ε α) :
    (crew.move index stage).stepsLeft + (crew.stages index).stepsLeft =
      crew.stepsLeft + stage.stepsLeft := by
  have moved : ∀ other, ((crew.move index stage).stages other).stepsLeft =
      Function.update (fun other => (crew.stages other).stepsLeft) index stage.stepsLeft other := by
    intro other
    rw [Crew.stages_move, Function.update_apply]
    split <;> rfl
  have others := Finset.add_sum_erase Finset.univ (fun other => (crew.stages other).stepsLeft)
    (Finset.mem_univ index)
  have total : ∑ other, ((crew.move index stage).stages other).stepsLeft +
      (crew.stages index).stepsLeft =
        ∑ other, (crew.stages other).stepsLeft + stage.stepsLeft := by
    simp only [moved]
    rw [Finset.sum_update_of_mem (Finset.mem_univ index), Finset.sdiff_singleton_eq_erase]
    omega
  rw [Crew.stepsLeft, Crew.stepsLeft]
  change 4 * (count - crew.started) + _ + (if crew.cancelled then 0 else 1) + _ = _
  omega

/-- Starting a job costs more than the steps that it then has to take. -/
theorem Step.stepsLeft_lt {before after : Crew ε α count} (step : Step workers job before after) :
    after.stepsLeft < before.stepsLeft := by
  have moved := stepsLeft_move before
  cases step with
  | start more free =>
    have stages := moved ⟨before.started, more⟩ .started
    simp only [Crew.stepsLeft, Crew.move, Stage.stepsLeft] at stages ⊢
    omega
  | @call index stage live =>
    have stages := moved index .running
    rw [stage] at stages
    change (before.move index .running).stepsLeft < _
    simp only [Stage.stepsLeft] at stages
    omega
  | @refuse index stage cancelled =>
    have stages := moved index (.returned (.error .cancelled))
    rw [stage] at stages
    simp only [Stage.stepsLeft] at stages
    omega
  | @answer index outcome stage live =>
    have stages := moved index (.returned outcome)
    rw [stage] at stages
    simp only [Stage.stepsLeft] at stages
    omega
  | @handOver index outcome stage =>
    have stages := moved index (.done outcome)
    rw [stage] at stages
    change (before.move index (.done outcome)).stepsLeft < _
    simp only [Stage.stepsLeft] at stages
    omega
  | cancel failed live =>
    simp only [Crew.stepsLeft, live, Bool.false_eq_true, if_false, if_true]
    omega

/-- No run goes on forever. -/
theorem wellFounded_step (workers : Nat) (job : Fin count → Except ε α) :
    WellFounded fun after before => Step workers job before after :=
  Subrelation.wf (fun step => step.stepsLeft_lt) (measure Crew.stepsLeft).wf

/-- The crews that a batch can come to. -/
def Reaches (workers : Nat) (job : Fin count → Except ε α) : Crew ε α count → Prop :=
  Relation.ReflTransGen (Step workers job) .start

/-- The jobs that have been started are those whose turn has come. -/
structure InTurn (crew : Crew ε α count) : Prop where
  bound : crew.started ≤ count
  waiting : ∀ index, crew.stages index = .waiting ↔ crew.started ≤ index

theorem InTurn.move {crew : Crew ε α count} (inTurn : InTurn crew) {index : Fin count}
    (stage : Stage ε α) (turn : crew.stages index ≠ .waiting) (moved : stage ≠ .waiting) :
    InTurn (crew.move index stage) := by
  refine ⟨inTurn.bound, fun other => ?_⟩
  rw [Crew.stages_move]
  split
  · next same =>
    subst same
    exact iff_of_false moved (mt (inTurn.waiting other).mpr turn)
  · exact inTurn.waiting other

theorem InTurn.step {before after : Crew ε α count} (inTurn : InTurn before)
    (step : Step workers job before after) : InTurn after := by
  cases step with
  | start more free =>
    refine ⟨more, fun other => ?_⟩
    simp only [Crew.move, Function.update_apply]
    split
    · next same =>
      subst same
      simp
    · next different =>
      rw [inTurn.waiting other]
      have apart : (other : Nat) ≠ before.started := fun same => different (Fin.ext same)
      omega
  | call stage live =>
    have moved := inTurn.move .running (by rw [stage]; nofun) nofun
    exact ⟨moved.bound, moved.waiting⟩
  | refuse stage cancelled => exact inTurn.move _ (by rw [stage]; nofun) nofun
  | answer stage live => exact inTurn.move _ (by rw [stage]; nofun) nofun
  | @handOver index outcome stage =>
    have moved := inTurn.move (.done outcome) (by rw [stage]; nofun) nofun
    exact ⟨moved.bound, moved.waiting⟩
  | cancel failed live => exact ⟨inTurn.bound, inTurn.waiting⟩

theorem Reaches.inTurn {crew : Crew ε α count} (reaches : Reaches workers job crew) :
    InTurn crew := by
  induction reaches with
  | refl => exact ⟨Nat.zero_le _, fun _ => iff_of_true rfl (Nat.zero_le _)⟩
  | tail _ step ih => exact ih.step step

/-- A batch that has not ended can take a step: a job that holds a worker can go on, and when none
does, there is a worker for the next one. -/
theorem Reaches.ended_or_step {crew : Crew ε α count} (reaches : Reaches workers job crew)
    (positive : 0 < workers) : crew.Ended ∨ ∃ next, Step workers job crew next := by
  by_cases idle : ∀ index, (crew.stages index).isHolding = false
  · rcases Nat.lt_or_ge crew.started count with more | none
    · have free : crew.holding < workers := by
        have nobody : crew.holding = 0 := by
          rw [Crew.holding, Finset.card_eq_zero, Finset.filter_eq_empty_iff]
          intro index _
          rw [idle index]
          nofun
        omega
      exact .inr ⟨_, .start more free⟩
    · refine .inl ⟨Nat.le_antisymm reaches.inTurn.bound none, fun index => ?_⟩
      have turn : crew.stages index ≠ .waiting := by
        rw [ne_eq, reaches.inTurn.waiting]
        omega
      have free := idle index
      cases stage : crew.stages index with
      | waiting => exact absurd stage turn
      | done outcome => exact ⟨outcome, rfl⟩
      | started | running | returned =>
        rw [stage] at free
        cases free
  · rw [not_forall] at idle
    obtain ⟨index, holding⟩ := idle
    refine .inr ?_
    cases stage : crew.stages index with
    | waiting => simp only [stage, Stage.isHolding, not_true] at holding
    | done outcome => simp only [stage, Stage.isHolding, not_true] at holding
    | started =>
      cases live : crew.cancelled with
      | false => exact ⟨_, .call stage live⟩
      | true => exact ⟨_, .refuse stage live⟩
    | running => exact ⟨_, .answer stage fun _ => rfl⟩
    | returned outcome => exact ⟨_, .handOver stage⟩

/-- However a batch has begun, it can be carried on to an end. -/
theorem Reaches.exists_ended {crew : Crew ε α count} (reaches : Reaches workers job crew)
    (positive : 0 < workers) : ∃ last, Reaches workers job last ∧ last.Ended := by
  induction crew using (wellFounded_step workers job).induction with
  | _ crew ih =>
    rcases reaches.ended_or_step positive with ended | ⟨next, step⟩
    · exact ⟨crew, reaches, ended⟩
    · exact ih next step (reaches.tail step)

/-! ## What the outcomes say about the jobs -/

/-- The stage of a job in a batch without failures: it has been called once it runs, and its outcome
is its own. -/
def Stage.Fits (outcome : Except ε α) (called : Prop) : Stage ε α → Prop
  | waiting | started => ¬ called
  | running => called
  | returned answer => called ∧ answer = outcome.mapError .job
  | done answer => called ∧ answer = outcome.mapError .job ∧ failure? answer = none

/-- As long as no failure has been handed over, each job has answered for itself. A failure is that
of a job. -/
structure Answered (job : Fin count → Except ε α) (crew : Crew ε α count) : Prop where
  calm : crew.failure = none → crew.cancelled = false ∧ crew.calls.Nodup ∧
    ∀ index, (crew.stages index).Fits (job index) (index ∈ crew.calls)
  blame : ∀ cause, crew.failure = some cause →
    ∃ index failure, job index = .error failure ∧ cause = .job failure

/-- A job that has moved on is looked at by itself. The other jobs are where they were. -/
theorem fits_move {crew : Crew ε α count} {index : Fin count} {stage : Stage ε α}
    {calls : List (Fin count)}
    (fits : ∀ other, (crew.stages other).Fits (job other) (other ∈ crew.calls))
    (own : stage.Fits (job index) (index ∈ calls))
    (others : ∀ other ≠ index, (other ∈ calls ↔ other ∈ crew.calls)) :
    ∀ other, ((crew.move index stage).stages other).Fits (job other) (other ∈ calls) := by
  intro other
  rw [Crew.stages_move]
  split
  · next same =>
    subst same
    exact own
  · next different =>
    rw [others other different]
    exact fits other

/-- A job that answers for itself blames its own failure. -/
theorem failure?_mapError_eq_some_iff {outcome : Except ε α} {cause : BatchError ε} :
    failure? (outcome.mapError .job) = some cause ↔
      ∃ failure, outcome = .error failure ∧ cause = .job failure := by
  cases outcome with
  | ok result => simp [failure?, Except.mapError]
  | error failure => simp [failure?, Except.mapError, eq_comm]

namespace Answered

variable {crew : Crew ε α count} {index : Fin count}

/-- The job whose turn has come has not been called. -/
theorem start (answered : Answered job crew) (inTurn : InTurn crew) (more : crew.started < count) :
    Answered job
      { crew.move ⟨crew.started, more⟩ .started with started := crew.started + 1 } := by
  refine ⟨fun none => ?_, answered.blame⟩
  obtain ⟨live, once, fits⟩ := answered.calm none
  have own := fits ⟨crew.started, more⟩
  rw [(inTurn.waiting ⟨crew.started, more⟩).mpr le_rfl] at own
  exact ⟨live, once, fits_move fits own fun _ _ => Iff.rfl⟩

/-- A job is called when it has been started, and only then. -/
theorem call (answered : Answered job crew) (stage : crew.stages index = .started) :
    Answered job { crew.move index .running with calls := crew.calls ++ [index] } := by
  refine ⟨fun none => ?_, answered.blame⟩
  obtain ⟨live, once, fits⟩ := answered.calm none
  have uncalled := fits index
  rw [stage] at uncalled
  have others : ∀ other ≠ index, (other ∈ crew.calls ++ [index] ↔ other ∈ crew.calls) := by
    intro other different
    rw [List.mem_append, List.mem_singleton, or_iff_left different]
  refine ⟨live, ?_, fits_move fits (List.mem_append_right _ (List.mem_singleton_self _)) others⟩
  rw [← List.concat_eq_append]
  exact List.Nodup.concat uncalled once

/-- No job is refused before a failure has been handed over. -/
theorem refuse (answered : Answered job crew) (cancelled : crew.cancelled = true) :
    Answered job (crew.move index (.returned (.error .cancelled))) := by
  refine ⟨fun none => ?_, answered.blame⟩
  rw [(answered.calm none).1] at cancelled
  cases cancelled

theorem answer {outcome : Except (BatchError ε) α} (answered : Answered job crew)
    (stage : crew.stages index = .running)
    (live : crew.cancelled = false → outcome = (job index).mapError .job) :
    Answered job (crew.move index (.returned outcome)) := by
  refine ⟨fun none => ?_, answered.blame⟩
  obtain ⟨running, once, fits⟩ := answered.calm none
  have called := fits index
  rw [stage] at called
  exact ⟨running, once, fits_move fits ⟨called, live running⟩ fun _ _ => Iff.rfl⟩

/-- The first failure that is handed over is that of the job. -/
theorem handOver {outcome : Except (BatchError ε) α} (answered : Answered job crew)
    (stage : crew.stages index = .returned outcome) :
    Answered job { crew.move index (.done outcome) with
      failure := crew.failure.or (failure? outcome) } := by
  cases earlier : crew.failure with
  | some cause => exact ⟨nofun, fun other same => answered.blame other (earlier.trans same)⟩
  | none =>
    obtain ⟨live, once, fits⟩ := answered.calm earlier
    have fit := fits index
    rw [stage] at fit
    obtain ⟨called, rfl⟩ := fit
    refine ⟨fun none => ⟨live, once, ?_⟩, fun cause same => ?_⟩
    · exact fits_move fits ⟨called, rfl, none⟩ fun _ _ => Iff.rfl
    · exact ⟨index, failure?_mapError_eq_some_iff.mp same⟩

theorem step {before after : Crew ε α count} (inTurn : InTurn before)
    (answered : Answered job before) (step : Step workers job before after) :
    Answered job after := by
  cases step with
  | start more free => exact answered.start inTurn more
  | call stage live => exact answered.call stage
  | refuse stage cancelled => exact answered.refuse cancelled
  | answer stage live => exact answered.answer stage live
  | handOver stage => exact answered.handOver stage
  | cancel failed live =>
    refine ⟨fun none => ?_, answered.blame⟩
    rw [none] at failed
    cases failed

end Answered

theorem Reaches.answered {crew : Crew ε α count} (reaches : Reaches workers job crew) :
    Answered job crew := by
  induction reaches with
  | refl => exact ⟨fun _ => ⟨rfl, List.nodup_nil, fun _ => List.not_mem_nil⟩, nofun⟩
  | tail earlier step ih => exact ih.step (Reaches.inTurn earlier) step

end Batch

end StaticNet
