/-! # Batches of independent jobs

A batch runs indexed jobs, one after the other or concurrently. Its answer does not depend on how
the jobs are scheduled as long as at most one of them fails: it is the failure, or the results in
index order. A batch that is cancelled before it starts runs no job, and one that runs in order ends
with the first failure, however many jobs there are.
-/

namespace StaticNet

/-- How many jobs run at a time, and how many jobs there must be for that. A number of workers that
is not positive stands for as many as the machine has. -/
structure BatchSettings where
  workers : Int
  leastJobs : Int
deriving DecidableEq

/-- Why a batch has no results. -/
inductive BatchError (ε : Type) where
  | cancelled
  | job (cause : ε)
deriving DecidableEq

namespace Batch

/-- The number of workers of a machine that runs jobs concurrently. -/
def machineWorkers : Int := 4

/-- Whether the jobs run one after the other. -/
def isSequential (settings : BatchSettings) (jobs : Int) : Bool :=
  (if settings.workers ≤ 0 then machineWorkers else settings.workers) = 1 ||
    jobs < settings.leastJobs

/-- The results of the last jobs of a batch, so many of them, before the first failure, and that
failure. The results of the jobs before them are given last first. -/
def untilFailure {ε α : Type} {count : Nat} (job : Fin count → Except ε α) :
    (left : Nat) → left ≤ count → List α → List α × Option ε
  | 0, _, done => (done.reverse, none)
  | left + 1, bound, done =>
      match job ⟨count - (left + 1), by omega⟩ with
      | .ok result => untilFailure job left (by omega) (result :: done)
      | .error cause => (done.reverse, some cause)

/-- The results of a batch that runs its jobs in order: what was done, and what went wrong. -/
def runInOrder {ε α : Type} (cancelled : Bool) {count : Nat} (job : Fin count → Except ε α) :
    List α × Option (BatchError ε) :=
  if cancelled && count ≠ 0 then ([], some .cancelled)
  else
    let (results, failure) := untilFailure job count (by omega) []
    (results, failure.map .job)

/-- The results of a batch, in index order. -/
def run {ε α : Type} (cancelled : Bool) {count : Nat} (job : Fin count → Except ε α) :
    Except (BatchError ε) (List α) :=
  match runInOrder cancelled job with
  | (results, none) => .ok results
  | (_, some cause) => .error cause

end Batch

end StaticNet
