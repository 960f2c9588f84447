import StaticNet.Proofs.Program.Lowering
import StaticNet.Proofs.Program.Workers

/-! # Programs rendered by several workers

A batch succeeds when all its jobs do, each of them called once, and otherwise fails with the
failure of one of them. So whatever order the workers render the drafts of a program in, they make
the program that is made when the drafts are rendered in order.
-/

namespace StaticNet

namespace Batch

variable {ε α : Type} {count : Nat}

/-- What is left of a batch that is over: the calls made, the results, and the failure, if any. -/
structure Report (ε α : Type) (count : Nat) where
  calls : List (Fin count)
  results : Fin count → Option α
  failure : Option (BatchError ε)

/-- What is left of a batch when its workers are done. -/
def Crew.report (crew : Crew ε α count) : Report ε α count :=
  ⟨crew.calls, fun index => (crew.stages index).result?, crew.failure⟩

/-- What is left of a batch that has run in order. It has called the jobs that have results, and the
one that has failed. -/
def Report.inOrder (job : Fin count → Except ε α) : Report ε α count :=
  let (results, failure) := runInOrder false job
  ⟨(List.finRange count).take (results.length + if failure.isSome then 1 else 0),
    fun index => results[(index : Nat)]?, failure⟩

/-- How a batch can end on a machine with so many workers, with a context that nothing outside the
batch cancels. -/
inductive Ends (machine : Nat) (settings : BatchSettings) (job : Fin count → Except ε α) :
    Report ε α count → Prop where
  | inOrder (small : RunsInOrder settings machine count) :
      Ends machine settings job (.inOrder job)
  | concurrent {crew : Crew ε α count} (large : ¬ RunsInOrder settings machine count)
      (run : Reaches (settings.workersOn machine) job crew) (ended : crew.Ended) :
      Ends machine settings job crew.report

/-- A batch succeeds when all its jobs do, and has then called each of them once and has its result.
Otherwise its failure is that of a job. -/
structure Faithful (job : Fin count → Except ε α) (report : Report ε α count) : Prop where
  success : report.failure = none ↔ ∀ index, ∃ result, job index = .ok result
  once : report.failure = none → ∀ index, report.calls.count index = 1
  results : report.failure = none → ∀ index result, job index = .ok result →
    report.results index = some result
  blame : ∀ cause, report.failure = some cause →
    ∃ index failure, job index = .error failure ∧ cause = .job failure

/-- Success and blame are two sides of one thing. -/
theorem Faithful.of_none {job : Fin count → Except ε α} {report : Report ε α count}
    (all : report.failure = none → ∀ index, report.calls.count index = 1 ∧
      ∃ result, job index = .ok result ∧ report.results index = some result)
    (blame : ∀ cause, report.failure = some cause →
      ∃ index failure, job index = .error failure ∧ cause = .job failure) :
    Faithful job report where
  success := by
    constructor
    · intro none index
      obtain ⟨-, result, ran, -⟩ := all none index
      exact ⟨result, ran⟩
    · intro ran
      cases failed : report.failure with
      | none => rfl
      | some cause =>
        obtain ⟨index, failure, wrong, -⟩ := blame cause failed
        obtain ⟨result, right⟩ := ran index
        rw [wrong] at right
        cases right
  once := fun none index => (all none index).1
  results := by
    intro none index result ran
    obtain ⟨-, other, again, held⟩ := all none index
    cases ran.symm.trans again
    exact held
  blame := blame

/-! ## Batches in order -/

theorem failure_of_untilFailure {job : Fin count → Except ε α} {left : Nat} (bound : left ≤ count)
    {done results : List α} {cause : ε}
    (failed : untilFailure job left bound done = (results, some cause)) :
    ∃ index, job index = .error cause := by
  induction left generalizing done with
  | zero => cases failed
  | succ left ih =>
    rw [untilFailure] at failed
    split at failed
    · exact ih _ failed
    · next ran =>
      cases failed
      exact ⟨_, ran⟩

theorem failure_of_runInOrder {job : Fin count → Except ε α} {results : List α}
    {cause : BatchError ε} (failed : runInOrder false job = (results, some cause)) :
    ∃ index failure, job index = .error failure ∧ cause = .job failure := by
  rw [runInOrder, Bool.false_and, if_neg Bool.false_ne_true] at failed
  obtain ⟨same, wrong⟩ := Prod.mk.inj failed
  obtain ⟨failure, stopped, rfl⟩ := Option.map_eq_some_iff.mp wrong
  obtain ⟨index, ran⟩ := failure_of_untilFailure (Nat.le_refl count) (Prod.ext same stopped)
  exact ⟨index, failure, ran, rfl⟩

theorem length_of_run {job : Fin count → Except ε α} {cancelled : Bool} {results : List α}
    (finished : run cancelled job = .ok results) : results.length = count := by
  have lengths := congrArg List.length (map_ok_of_run finished)
  rwa [List.length_map, List.length_map, List.length_finRange] at lengths

/-- The result of a job stands at its index. -/
theorem getElem?_of_run {job : Fin count → Except ε α} {cancelled : Bool} {results : List α}
    (finished : run cancelled job = .ok results) (index : Fin count) :
    ∃ result, job index = .ok result ∧ results[(index : Nat)]? = some result := by
  have inside : (index : Nat) < results.length := by
    rw [length_of_run finished]
    exact index.isLt
  have here := congrArg (fun outcomes => outcomes[(index : Nat)]?) (map_ok_of_run finished)
  rw [List.getElem?_map, List.getElem?_map, List.getElem?_eq_getElem inside,
    List.getElem?_eq_getElem (by rw [List.length_finRange]; exact index.isLt),
    List.getElem_finRange] at here
  exact ⟨_, (Option.some.inj here).symm, List.getElem?_eq_getElem inside⟩

private theorem filterMap_getElem? {results : List α} (length : results.length = count) :
    (List.finRange count).filterMap (fun index : Fin count => results[(index : Nat)]?) =
      results := by
  subst length
  refine Eq.trans ?_ (List.map_get_finRange results)
  rw [← List.filterMap_eq_map]
  exact List.filterMap_congr fun index _ => List.getElem?_eq_getElem index.isLt

theorem faithful_inOrder (job : Fin count → Except ε α) : Faithful job (.inOrder job) := by
  rw [Report.inOrder]
  rcases ran : runInOrder false job with ⟨results, failure⟩
  refine .of_none (fun none index => ?_) fun cause failed => ?_
  · subst none
    have finished : run false job = .ok results := by rw [run, ran]
    refine ⟨?_, getElem?_of_run finished index⟩
    have whole : (List.finRange count).take (results.length + 0) = List.finRange count := by
      rw [Nat.add_zero, length_of_run finished]
      exact List.take_of_length_le List.length_finRange.le
    change List.count index ((List.finRange count).take (results.length + 0)) = 1
    rw [whole]
    exact List.count_eq_one_of_mem (List.nodup_finRange count) (List.mem_finRange index)
  · subst failed
    exact failure_of_runInOrder ran

theorem faithful_report {workers : Nat} {job : Fin count → Except ε α} {crew : Crew ε α count}
    (reaches : Reaches workers job crew) (ended : crew.Ended) : Faithful job crew.report := by
  refine .of_none (fun none index => ?_) reaches.answered.blame
  obtain ⟨-, once, fits⟩ := reaches.answered.calm none
  obtain ⟨answer, stage⟩ := ended.2 index
  have fit := fits index
  rw [stage] at fit
  obtain ⟨called, own, succeeded⟩ := fit
  subst own
  cases ran : job index with
  | error failure =>
    rw [ran] at succeeded
    cases succeeded
  | ok result =>
    refine ⟨List.count_eq_one_of_mem once called, result, rfl, ?_⟩
    change (crew.stages index).result? = some result
    rw [stage, ran]
    rfl

theorem Ends.faithful {machine : Nat} {settings : BatchSettings} {job : Fin count → Except ε α}
    {report : Report ε α count} (ends : Ends machine settings job report) :
    Faithful job report := by
  cases ends with
  | inOrder small => exact faithful_inOrder job
  | concurrent large run ended => exact faithful_report run ended

/-- There is a way for a batch to end. -/
theorem exists_ends {machine : Nat} (positive : 0 < machine) (settings : BatchSettings)
    (job : Fin count → Except ε α) : ∃ report, Ends machine settings job report := by
  by_cases small : RunsInOrder settings machine count
  · exact ⟨_, .inOrder small⟩
  · have start : Reaches (settings.workersOn machine) job .start := .refl
    obtain ⟨crew, run, ended⟩ := start.exists_ended (settings.workersOn_pos positive)
    exact ⟨_, .concurrent small run ended⟩

end Batch

/-! ## Emission -/

namespace Emission

/-- The fragments of a program, from a batch that has rendered its drafts. -/
def assemble {count : Nat} (report : Batch.Report DraftError Fragment count) :
    Except EmissionError (List Fragment) :=
  match report.failure with
  | none => .ok (((List.finRange count).filterMap report.results).filter fun fragment =>
      fragment.text ≠ "")
  | some .cancelled => .error .cancelled
  | some (.job failure) => .error (.draft failure)

/-- The jobs of rendering drafts. -/
def rendering (renderer : Template.Renderer) (drafts : List Draft) :
    Fin drafts.toArray.size → Except DraftError Fragment :=
  fun index => renderDraft renderer (drafts.get index)

/-- How rendering drafts can end. -/
def Renders (machine : Nat) (settings : BatchSettings) (renderer : Template.Renderer)
    (drafts : List Draft) (outcome : Except EmissionError (List Fragment)) : Prop :=
  ∃ report, Batch.Ends machine settings (rendering renderer drafts) report ∧
    outcome = assemble report

theorem assemble_eq {count : Nat} {job : Fin count → Except DraftError Fragment}
    {one other : Batch.Report DraftError Fragment count} (faithful : Batch.Faithful job one)
    (faithfulOther : Batch.Faithful job other)
    (ran : ∀ index, ∃ fragment, job index = .ok fragment) : assemble one = assemble other := by
  have none := faithful.success.mpr ran
  have noneOther := faithfulOther.success.mpr ran
  have results : one.results = other.results := by
    funext index
    obtain ⟨fragment, done⟩ := ran index
    rw [faithful.results none index fragment done,
      faithfulOther.results noneOther index fragment done]
  rw [assemble, assemble, none, noneOther, results]

/-- Rendering in order is a batch in order. -/
theorem render_eq_assemble (renderer : Template.Renderer) (drafts : List Draft) :
    render renderer false drafts = assemble (.inOrder (rendering renderer drafts)) := by
  have jobs : (fun index : Fin drafts.toArray.size => renderDraft renderer drafts.toArray[index]) =
      rendering renderer drafts := rfl
  rw [render, assemble, Batch.Report.inOrder]
  dsimp only
  rw [jobs, Batch.run]
  rcases ran : Batch.runInOrder false (rendering renderer drafts) with ⟨results, failure⟩
  cases failure with
  | none =>
    have finished : Batch.run false (rendering renderer drafts) = .ok results := by
      rw [Batch.run, ran]
    have all := Batch.filterMap_getElem? (Batch.length_of_run finished)
    dsimp only
    rw [all]
  | some cause => cases cause <;> rfl

/-- When all drafts can be rendered, it does not matter how the work is shared. -/
theorem Renders.eq_render {machine : Nat} {settings : BatchSettings}
    {renderer : Template.Renderer} {drafts : List Draft}
    {outcome : Except EmissionError (List Fragment)}
    (renders : Renders machine settings renderer drafts outcome)
    (texts : ∀ draft ∈ drafts, ∃ text, draft.call.render renderer = .ok text) :
    outcome = render renderer false drafts := by
  obtain ⟨report, ends, rfl⟩ := renders
  rw [render_eq_assemble]
  refine assemble_eq ends.faithful (Batch.faithful_inOrder _) fun index => ?_
  obtain ⟨text, done⟩ := texts (drafts.get index) (List.get_mem drafts index)
  exact ⟨_, by rw [rendering, renderDraft, done]⟩

end Emission

/-- Emit the program of a schedule, with any way of rendering its drafts. -/
def Program.emitBy (batch : List Draft → Except EmissionError (List Fragment)) (graph : Graph)
    (tasks : List Task) : ExceptT EmissionError Allocating Program := do
  let collection ← Emission.collect graph tasks
  let fragments ← batch collection.drafts
  let runParameters ← Emission.runParameters graph
  return ⟨fragments, collection.kernelCount, collection.biasCount, runParameters⟩

theorem Program.emit_eq_emitBy (graph : Graph) (tasks : List Task) (renderer : Template.Renderer)
    (cancelled : Bool) : Program.emit graph tasks renderer cancelled =
      Program.emitBy (Emission.render renderer cancelled) graph tasks := rfl

theorem Program.emitBy_congr {one other : List Draft → Except EmissionError (List Fragment)}
    {graph : Graph} {tasks : List Task} {pool : BufferPool} {journal : Journal}
    (same : ∀ collection,
      (((Emission.collect graph tasks).run.run pool).run journal).1.1 = .ok collection →
        one collection.drafts = other collection.drafts) :
    ((Program.emitBy one graph tasks).run.run pool).run journal =
      ((Program.emitBy other graph tasks).run.run pool).run journal := by
  rw [emitBy, emitBy, ExceptT.run_bind, ExceptT.run_bind, StateT.run_bind, StateT.run_bind,
    StateT.run_bind, StateT.run_bind]
  rcases collected : ((Emission.collect graph tasks).run.run pool).run journal with
    ⟨⟨outcome, after⟩, later⟩
  cases outcome with
  | error cause => rfl
  | ok collection =>
    have drafts := same collection (congrArg (fun run => run.1.1) collected)
    exact congrArg (fun rendered : Except EmissionError (List Fragment) => (((do
      let fragments ← rendered
      let runParameters ← Emission.runParameters graph
      return ⟨fragments, collection.kernelCount, collection.biasCount, runParameters⟩ :
        ExceptT EmissionError Allocating Program).run.run after).run later)) drafts

/-- A batch can always go on until it ends. On a machine with at least one worker no run goes on
forever, and none gets stuck. -/
structure Batch.Finishes {ε α : Type} {count : Nat} (machine : Nat) (settings : BatchSettings)
    (job : Fin count → Except ε α) : Prop where
  finite : WellFounded fun after before => Step (settings.workersOn machine) job before after
  free : ∀ crew, Reaches (settings.workersOn machine) job crew →
    crew.Ended ∨ ∃ next, Step (settings.workersOn machine) job crew next
  ends : ∃ report, Ends machine settings job report

/-- Whatever the number of workers and whatever order they take the jobs in, a batch ends, and it
succeeds when all its jobs do, with one call of each, and otherwise has the failure of one of them.
So a program whose drafts can all be rendered is the same however the rendering is shared. -/
theorem concurrent_spec {machine : Nat} (positive : 0 < machine) (settings : BatchSettings) :
    (∀ {ε α : Type} {count : Nat} (job : Fin count → Except ε α),
      Batch.Finishes machine settings job ∧
        ∀ report, Batch.Ends machine settings job report → Batch.Faithful job report) ∧
    ∀ (renderer : Template.Renderer) (batch : List Draft → Except EmissionError (List Fragment)),
      (∀ drafts, Emission.Renders machine settings renderer drafts (batch drafts)) →
      ∀ (graph : Graph) (tasks : List Task) (pool : BufferPool) (journal : Journal),
        (∀ collection,
          (((Emission.collect graph tasks).run.run pool).run journal).1.1 = .ok collection →
            ∀ draft ∈ collection.drafts, ∃ text, draft.call.render renderer = .ok text) →
        ((Program.emitBy batch graph tasks).run.run pool).run journal =
          ((Program.emit graph tasks renderer false).run.run pool).run journal := by
  refine ⟨fun job => ⟨⟨Batch.wellFounded_step _ job, fun crew reaches => ?_, ?_⟩,
    fun report ends => ends.faithful⟩, ?_⟩
  · exact reaches.ended_or_step (settings.workersOn_pos positive)
  · exact Batch.exists_ends positive settings job
  · intro renderer batch renders graph tasks pool journal texts
    rw [Program.emit_eq_emitBy]
    refine Program.emitBy_congr fun collection collected => ?_
    exact (renders collection.drafts).eq_render (texts collection collected)

/-- Jobs of which the second fails. -/
private def oneFails (index : Fin 3) : Except Unit Nat :=
  if index = 1 then .error () else .ok index

/-- A network of one layer. -/
private def rectified : GraphSpec where
  name := "rectified"
  nodes := [⟨"only", "Relu", ["x"], ["y"], .empty⟩]
  inputs := [⟨"x", 1, some [1, 2]⟩]
  outputs := [⟨"y", 1, some [1, 2]⟩]
  initializers := .empty
  values := []

/-- The graph of the network. -/
private def rectifiedGraph : Graph := (Graph.build rectified).toOption.get rfl

private theorem schedule_rectified : ∃ tasks : List Task, tasks ≠ [] ∧
    ∃ collection, (((Emission.collect rectifiedGraph tasks).run.run .empty).run []).1.1 =
        .ok collection ∧
      ∀ draft ∈ collection.drafts, ∃ text, draft.call.render .builtin = .ok text := by
  have evaluated :
      (((Compiler.selectAll rectifiedGraph).run.run .empty).run []).1.1.toOption.any
        (fun layers =>
          (Schedule.ofGraph rectifiedGraph fun id => layers.lookup id).toOption.any fun tasks =>
            !tasks.isEmpty &&
              (((Emission.collect rectifiedGraph tasks).run.run
                .empty).run []).1.1.toOption.any fun collection =>
                  collection.drafts.all fun draft =>
                    (draft.call.render .builtin).toOption.isSome) = true := by
    decide +kernel
  obtain ⟨layers, -, schedules⟩ := Outcome.eq_ok_of_any evaluated
  obtain ⟨tasks, -, holds⟩ := Outcome.eq_ok_of_any schedules
  obtain ⟨scheduled, collects⟩ := Bool.and_eq_true_iff.mp holds
  obtain ⟨collection, collected, texts⟩ := Outcome.eq_ok_of_any collects
  refine ⟨tasks, ?_, collection, collected, fun draft member => ?_⟩
  · rintro rfl
    cases scheduled
  · exact ⟨_, Outcome.eq_ok_get (List.all_eq_true.mp texts draft member)⟩

/-- Whatever four workers do, they end with the failure of the job that fails, and they make the
program of the small network. -/
theorem concurrent_spec_four :
    0 < 4 ∧ (∃ report, Batch.Ends 4 ⟨0, 1⟩ oneFails report) ∧
      (∀ report, Batch.Ends 4 ⟨0, 1⟩ oneFails report → report.failure = some (.job ())) ∧
      ∃ graph tasks, tasks ≠ [] ∧ ∃ batch : List Draft → Except EmissionError (List Fragment),
        (∀ drafts, Emission.Renders 4 ⟨0, 1⟩ .builtin drafts (batch drafts)) ∧
        ((Program.emitBy batch graph tasks).run.run .empty).run [] =
          ((Program.emit graph tasks .builtin false).run.run .empty).run [] := by
  obtain ⟨jobs, programs⟩ := concurrent_spec (show 0 < 4 by decide) ⟨0, 1⟩
  obtain ⟨finishes, faithful⟩ := jobs oneFails
  obtain ⟨tasks, scheduled, collection, collected, texts⟩ := schedule_rectified
  refine ⟨by decide, finishes.ends, fun report ends => ?_, rectifiedGraph, tasks,
    scheduled, fun drafts => Emission.assemble (Batch.exists_ends (by decide) ⟨0, 1⟩
      (Emission.rendering .builtin drafts)).choose, fun drafts => ⟨_, Exists.choose_spec _, rfl⟩,
    programs .builtin _ (fun drafts => ⟨_, Exists.choose_spec _, rfl⟩) _ _ _ _ ?_⟩
  · cases failed : report.failure with
    | none =>
      obtain ⟨result, ran⟩ := (faithful report ends).success.mp failed 1
      cases ran
    | some cause =>
      obtain ⟨_, ⟨⟩, -, rfl⟩ := (faithful report ends).blame cause failed
      rfl
  · intro other same
    obtain rfl : collection = other := Except.ok.inj (collected.symm.trans same)
    exact texts

end StaticNet
