import DeliveryCycle.Matching.Selection
import DeliveryCycle.Run.Candidate
import DeliveryCycle.Run.Options
import DeliveryCycle.Settings.Database

/-!
# A run

A run walks once over the candidates of a project, in their order, and processes one after the
other. After each candidate it reports its progress. Before each candidate it looks whether it was
told to stop; then it starts no further one, and its summary says that it was cancelled. A run that
was told to stop during its last candidate is not cancelled, because nothing is left to start. A run
also fails if it comes to a batch of candidates that is too large to be fetched.

A run returns its summary, or fails for one of the causes in `RunError`. The ledger of a run counts
only if whoever started the run commits it, and no one commits a run that failed.
-/

namespace DeliveryCycle

/-- Why a run does not return. -/
inductive RunError where
  | invalidOptions (issue : Issue)
  | unreadableBatchSize (error : Settings.UnreadableInteger)
  | cursorFailed (failure : StorageFailure)
  | batchSizeTooLarge (error : BatchSizeTooLarge)
  | breakdown (error : Breakdown)
deriving DecidableEq, Repr

/-- What reaches a run from outside; the reports of progress are numbered from one. -/
structure Signals where
  /-- The run is told to stop before it starts. -/
  stopAtStart : Bool
  /-- The run is told to stop while it resolves a task of a connection. -/
  stopDuring : Int × String → Bool
  /-- The run is told to stop while it reports progress. -/
  stopAtReport : Nat → Bool
  /-- The listener of the reports breaks down. -/
  reportBreakdown : Nat → Option Breakdown

/-- Nothing reaches the run. -/
def Signals.none : Signals where
  stopAtStart := false
  stopDuring _ := false
  stopAtReport _ := false
  reportBreakdown _ := .none

def startEntry (project : String) : Log.Entry :=
  .plain .info runLogger s!"Starting business cycle time calculation for project: {project}"

/-- How far a run has come. -/
structure RunState where
  ledger : Ledger
  summary : RunSummary
  reports : Nat
  stopping : Bool
  log : List Log.Entry

/-- A run after its end; `result` is its summary or the reason why there is none. -/
structure RunResult where
  result : Except RunError RunSummary
  ledger : Ledger
  reports : Nat
  stopping : Bool
  log : List Log.Entry

/-- What a run works with: the options are checked, the collected rows do not change. -/
structure RunPlan where
  collected : Collected
  project : String
  faults : Faults
  signals : Signals

namespace RunState

def start (plan : RunPlan) (ledger : Ledger) : RunState where
  ledger := ledger
  summary := .start plan.project
  reports := 0
  stopping := plan.signals.stopAtStart
  log := [startEntry plan.project]

def logging (state : RunState) (entries : List Log.Entry) : RunState :=
  { state with log := state.log ++ entries }

def finish (state : RunState) (result : Except RunError RunSummary) : RunResult :=
  ⟨result, state.ledger, state.reports, state.stopping, state.log⟩

/-- Reports that one more candidate was processed; the listener may break down. -/
def report (state : RunState) (signals : Signals) : RunState × Option Breakdown :=
  let number := state.reports + 1
  ({ state with
      reports := number
      stopping := state.stopping || signals.stopAtReport number },
    signals.reportBreakdown number)

def stopEntry (state : RunState) : Log.Entry :=
  .plain .warning runLogger
    (s!"Cancelled after {state.summary.candidates} candidates for project: " ++
      state.summary.project)

/-- The state of a run that starts no further candidate. -/
def stop (state : RunState) : RunState :=
  { state.logging [state.stopEntry] with summary := state.summary.cancel }

/-- The state after a candidate was processed, before progress is reported. -/
def advance (plan : RunPlan) (state : RunState) (item : WorkItem) :
    RunState × Except Breakdown Unit :=
  let processed := processCandidate plan.faults plan.collected plan.project state.ledger item
  let state := { state.logging processed.log with
    stopping := state.stopping || plan.signals.stopDuring item.key }
  match processed.result with
  | .error breakdown => (state, .error breakdown)
  | .ok (outcome, ledger) =>
      ({ state with ledger := ledger, summary := state.summary.record outcome }, .ok ())

/-- Walks over candidates until they end, the run is told to stop, or something breaks down. -/
def walk (plan : RunPlan) (state : RunState) : List WorkItem → RunState × Option Breakdown
  | [] => (state, none)
  | item :: rest =>
      if state.stopping then (state.stop, none)
      else
        match state.advance plan item with
        | (state, .error breakdown) => (state, some breakdown)
        | (state, .ok ()) =>
            match state.report plan.signals with
            | (state, some breakdown) => (state, some breakdown)
            | (state, none) => walk plan state rest

def completionEntry (summary : RunSummary) : Log.Entry :=
  .detailed .info runLogger
    (s!"Business cycle calculation complete: {summary.processed} tasks processed, " ++
      s!"{summary.withDeployment} with deployments") summary.details

end RunState

/-- The number of rows a cursor fetches at a time: the given one unless it is zero. -/
def chosenBatchSize (environment : Environment) (given : Option Int) :
    Except Settings.UnreadableInteger Int :=
  match given with
  | some size => if size = 0 then Settings.batchSize environment else .ok size
  | none => Settings.batchSize environment

/-- The candidates of a run; the size of a batch is looked up before the cursor is opened. -/
def RunPlan.candidates (plan : RunPlan) (environment : Environment) (batchSize : Option Int) :
    Except RunError (Fetched WorkItem) := do
  let size ← (chosenBatchSize environment batchSize).mapError .unreadableBatchSize
  match plan.faults.cursor with
  | some failure => .error (.cursorFailed failure)
  | none => .ok (fetched size (plan.collected.candidates plan.project))

/-- The result of a run that walked over what its cursor handed out and did not break down. A run
that stopped does not come to what the cursor has at its end. -/
def RunState.conclude (state : RunState) (failure : Option BatchSizeTooLarge) : RunResult :=
  match failure, state.summary.cancelled with
  | some error, false => state.finish (.error (.batchSizeTooLarge error))
  | _, _ => (state.logging [completionEntry state.summary]).finish (.ok state.summary)

def RunPlan.run (plan : RunPlan) (environment : Environment) (batchSize : Option Int)
    (ledger : Ledger) : RunResult :=
  let state := RunState.start plan ledger
  match plan.candidates environment batchSize with
  | .error error => state.finish (.error error)
  | .ok candidates =>
      match state.walk plan candidates.rows with
      | (state, some breakdown) => state.finish (.error (.breakdown breakdown))
      | (state, none) => state.conclude candidates.failure

end DeliveryCycle
