import DeliveryCycle.Run.Calculation

/-!
# Runs and their transactions

A run works in a transaction that whoever starts the run has to commit. `calculate` commits a run
that returned; a run that failed leaves the store as it was.

`calculateAndCommit` also keeps what was done when its caller is cancelled. The run is then told to
stop, finishes the task it is working on and is committed, and only then the caller learns that it
was cancelled. A run that fails after that is not committed, and the caller learns why it failed.
-/

namespace DeliveryCycle

inductive CommitError where
  | failed (error : RunError)
  /-- The caller was cancelled. -/
  | cancelled
deriving DecidableEq, Repr

/-- The end of a run together with the store that it leaves. -/
structure CommittedRun where
  result : Except CommitError RunSummary
  store : Store
  reports : Nat
  log : List Log.Entry

structure RunRequest where
  projectName : String
  batchSize : Option Int
  faults : Faults
  signals : Signals

/-- The store whose ledger is the one of a run. -/
def Store.withLedger (store : Store) (ledger : Ledger) : Store := { store with ledger := ledger }

namespace CommittedRun

/-- A run that failed leaves the store as it was. -/
def failed (store : Store) (error : RunError) (reports : Nat) (log : List Log.Entry) :
    CommittedRun :=
  ⟨.error (.failed error), store, reports, log⟩

end CommittedRun

def RunRequest.plan (request : RunRequest) (store : Store) (options : RunOptions) : RunPlan :=
  ⟨store.collected, options.project, request.faults, request.signals⟩

/-- A run that is committed if it returns. -/
def calculate (environment : Environment) (store : Store) (request : RunRequest) : CommittedRun :=
  match RunOptions.ofName request.projectName with
  | .error issue => .failed store (.invalidOptions issue) 0 []
  | .ok options =>
      let run := (request.plan store options).run environment request.batchSize store.ledger
      match run.result with
      | .error error => .failed store error run.reports run.log
      | .ok summary => ⟨.ok summary, store.withLedger run.ledger, run.reports, run.log⟩

def cancelledEntry (summary : RunSummary) : Log.Entry :=
  .detailed .warning runLogger
    (s!"Run cancelled; committed {summary.processed} records for project: " ++ summary.project)
    summary.details

/-- A run with checked options that is committed if it returns, also if its caller is cancelled. -/
def commitRun (environment : Environment) (store : Store) (request : RunRequest)
    (options : RunOptions) : CommittedRun :=
  let run := (request.plan store options).run environment request.batchSize store.ledger
  match run.result with
  | .error error => .failed store error run.reports run.log
  | .ok summary =>
      let committed := store.withLedger run.ledger
      if run.stopping then
        ⟨.error .cancelled, committed, run.reports, run.log ++ [cancelledEntry summary]⟩
      else ⟨.ok summary, committed, run.reports, run.log⟩

/-- A committing run for the project of a given name. -/
def calculateAndCommit (environment : Environment) (store : Store) (request : RunRequest) :
    CommittedRun :=
  match RunOptions.ofName request.projectName with
  | .error issue => .failed store (.invalidOptions issue) 0 []
  | .ok options => commitRun environment store request options

end DeliveryCycle
