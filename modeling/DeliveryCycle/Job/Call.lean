import DeliveryCycle.Job.Pipeline
import DeliveryCycle.Validation.Signature

/-!
# Calls of jobs

A job is started by its name with a list of arguments, which may be of any kind. `Call.ofArguments`
tells which job it is and gives the arguments their parts; it refuses too few and too many of them,
and a name that is none of a job.
-/

namespace DeliveryCycle.Job

inductive Call where
  | enrich (connection : Json)
  | calculate (project : Json)
  | pipeline (project connections : Json)
deriving Repr

inductive CallError where
  | unknownJob (name : String)
  | refused (error : ArgumentError)
deriving DecidableEq, Repr

def CallError.message : CallError → String
  | .unknownJob name => Text.quoted name
  | .refused error => error.message

def enrichmentSignature : Signature := ⟨enrichmentName, "connection_id", 0, 0⟩

def calculationSignature : Signature := ⟨calculationName, projectField, 0, 0⟩

def pipelineSignature : Signature := ⟨pipelineName, projectField, 1, 0⟩

/-- The call of a job by its name. -/
def Call.ofArguments (name : String) (arguments : List Json) : Except CallError Call :=
  if name = enrichmentName then do
    let (connection, _) ← (enrichmentSignature.bind arguments).mapError .refused
    return .enrich connection
  else if name = calculationName then do
    let (project, _) ← (calculationSignature.bind arguments).mapError .refused
    return .calculate project
  else if name = pipelineName then do
    let (project, others) ← (pipelineSignature.bind arguments).mapError .refused
    return .pipeline project (others.headD .null)
  else .error (.unknownJob name)

inductive Report where
  | enriched (count : Nat)
  | calculated (summary : RunSummary)
  | finished (report : PipelineReport)
deriving DecidableEq, Repr

def Report.toJson : Report → Json
  | .enriched count => .int count
  | .calculated summary => summary.toJson
  | .finished report => report.toJson

/-- A job whose result is one of the reports. -/
def JobResult.reporting {Value : Type} (job : JobResult Value) (report : Value → Report) :
    JobResult Report :=
  ⟨job.result.map report, job.printed, job.store, job.log⟩

def Call.run (call : Call) (surroundings : Surroundings) (store : Store) : JobResult Report :=
  match call with
  | .enrich connection => (enrichWorkItems store connection).reporting .enriched
  | .calculate project => (calculateCycleTime surroundings store project).reporting .calculated
  | .pipeline project connections =>
      (runPipeline surroundings store project connections).reporting .finished

end DeliveryCycle.Job
