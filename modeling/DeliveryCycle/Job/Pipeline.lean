import DeliveryCycle.Job.Progress
import DeliveryCycle.Job.Registry
import DeliveryCycle.Run.Commit
import DeliveryCycle.Run.Enrichment

/-!
# Jobs

Three jobs work on the store: one copies branches to the work items of a connection, one calculates
the cycle times of a project, and one does both, the first for each of several connections. A job
prints what it does. Every stage commits on its own, so that what one stage did stays if the next
one fails.

A service may run each job on an instance of its own. Here a job that starts another one is taken to
call it as a plain function in one process: the other job finds the same settings and the same
store, its lines follow those before, and between two stages nothing is retried and nothing fails.
-/

namespace DeliveryCycle.Job

inductive JobError where
  | refused (error : StoreError)
  | invalidOptions (issue : Issue)
  | run (error : CommitError)
  /-- What should list connections is no list; it is named by its kind. -/
  | connectionsRequired (kind : String)
deriving DecidableEq, Repr

/-- What a user reads about something that should list connections. -/
def connectionsRequiredMessage (kind : String) : String := s!"'{kind}' object is not iterable"

/-- The end of a job: its result, what it printed and logged, and the store it leaves. -/
structure JobResult (Value : Type) where
  result : Except JobError Value
  printed : List String
  store : Store
  log : List Log.Entry

/-- What a job finds around it: the settings, what goes wrong and what reaches its run. -/
structure Surroundings where
  environment : Environment
  faults : Faults
  signals : Signals

def JobResult.start (store : Store) (lines : List String) : JobResult Unit :=
  ⟨.ok (), lines, store, []⟩

/-- Goes on with another job after one that succeeded; a job that failed is the end. -/
def JobResult.andThen {Value Next : Type} (job : JobResult Value)
    (next : Value → Store → JobResult Next) : JobResult Next :=
  match job.result with
  | .error error => ⟨.error error, job.printed, job.store, job.log⟩
  | .ok value =>
      let following := next value job.store
      ⟨following.result, job.printed ++ following.printed, following.store,
        job.log ++ following.log⟩

def printing {Value : Type} (lines : List String) (value : Value) (store : Store) :
    JobResult Value :=
  ⟨.ok value, lines, store, []⟩

/-- Copies branches to the work items of the connection that a value stands for. -/
def enrichWorkItems (store : Store) (connection : Json) : JobResult Nat :=
  let first := s!"[Enrichment] Enriching work items for connection {connection.display}"
  match store.collected.enrich connection with
  | .error error => ⟨.error (.refused error), [first], store, []⟩
  | .ok enrichment =>
      { result := .ok enrichment.count
        printed := [first, s!"[Enrichment] Enriched {enrichment.count} work items"]
        store := { store with collected := enrichment.collected }
        log := enrichment.log }

def calculationLabel : String := "Cycle Time"

def calculationEndLine (summary : RunSummary) : String :=
  s!"[{calculationLabel}] {summary.candidates} candidates: {summary.processed} processed, " ++
    s!"{summary.withDeployment} with deployments, {summary.unmatched} unmatched, " ++
    s!"{summary.failed} failed"

/-- Calculates the cycle times of the project that a value names. -/
def calculateCycleTime (surroundings : Surroundings) (store : Store) (project : Json) :
    JobResult RunSummary :=
  match RunOptions.ofJson (.object [(projectField, project)]) with
  | .error issue => ⟨.error (.invalidOptions issue), [], store, []⟩
  | .ok options =>
      let request : RunRequest :=
        ⟨options.project, none, surroundings.faults, surroundings.signals⟩
      let run := commitRun surroundings.environment store request options
      let label := calculationLabel
      let lines := s!"[{label}] Calculating business cycle time for project: {options.project}" ::
        (ProgressCounter.start label).linesFor run.reports
      match run.result with
      | .error error => ⟨.error (.run error), lines, run.store, run.log⟩
      | .ok summary => ⟨.ok summary, lines ++ [calculationEndLine summary], run.store, run.log⟩

/-- Copies branches for several connections; the counts are kept by connection. -/
def enrichConnections (store : Store) (counts : List (String × Nat)) :
    (connections : List Json) → JobResult (List (String × Nat))
  | [] => printing [] counts store
  | connection :: rest =>
      (enrichWorkItems store connection).andThen fun count store =>
        enrichConnections store (setField counts connection.display count) rest

/-- The values that a value lists: the items of a list, the names of an object, or the characters of
a text. One that does not count as given lists nothing. -/
def listed (value : Json) : Except JobError (List Json) :=
  if !value.isGiven then .ok []
  else
    match value with
    | .array items => .ok items
    | .object fields => .ok (fields.map fun field => .string field.1)
    | .string text => .ok (text.toList.map fun character => .string (String.singleton character))
    | value => .error (.connectionsRequired value.kindName)

/-- What the whole pipeline returns: the counts by connection and the summary of the run. -/
structure PipelineReport where
  enriched : List (String × Nat)
  summary : RunSummary
deriving DecidableEq, Repr

def rule : String := String.ofList (List.replicate 60 '=')

def enrichListed (store : Store) (connections : Json) : JobResult (List (String × Nat)) :=
  match listed connections with
  | .ok connections => enrichConnections store [] connections
  | .error error => ⟨.error error, [], store, []⟩

/-- Copies branches for some connections and then calculates the cycle times of a project. -/
def runPipeline (surroundings : Surroundings) (store : Store) (project connections : Json) :
    JobResult PipelineReport :=
  let opening := [rule, "Business Cycle Pipeline", rule, s!"Project: {project.display}", "",
    "--- Stage 1: Enriching work items ---"]
  (printing opening () store).andThen fun _ store =>
    (enrichListed store connections).andThen fun enriched store =>
      (printing ["", "--- Stage 2: Calculating business cycle time ---"] () store).andThen
        fun _ store =>
          (calculateCycleTime surroundings store project).andThen fun summary store =>
            printing ["", rule, "Pipeline Complete", rule] ⟨enriched, summary⟩ store

def PipelineReport.toJson (report : PipelineReport) : Json :=
  .object [("enriched", .object (report.enriched.map fun (id, count) => (id, .int count))),
    ("summary", report.summary.toJson)]

end DeliveryCycle.Job
