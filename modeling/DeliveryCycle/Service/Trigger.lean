import DeliveryCycle.Job.Registry
import DeliveryCycle.Json.Display
import DeliveryCycle.Settings.Environment
import DeliveryCycle.Text.Blank

/-!
# Triggering a run from the command line

The command takes the name of a project, starts the calculation at the workflow service and waits
until it has ended. It prints each step. Its exit code is one if it was not used correctly, if it
has no key, or if the calculation did not succeed; otherwise the command sets none.
-/

namespace DeliveryCycle.Service

/-- A run as the workflow service describes it, at its start and at its end. -/
structure ServiceRun where
  id : Json
  status : Json
  finalStatus : Json
  error : Json
deriving Repr

/-- The run that an answer of the service describes; what the answer leaves out is null. -/
def ServiceRun.ofJson (answer : Json) : ServiceRun where
  id := (answer.field? "id").getD .null
  status := (answer.field? "status").getD .null
  finalStatus := (answer.field? "final_status").getD .null
  error := (answer.field? "error").getD .null

/-- A call of the workflow service: a task with its arguments. -/
structure ServiceCall where
  task : String
  arguments : List String
deriving DecidableEq, Repr

/-- What the command did. -/
structure TriggerResult where
  printed : List String
  exitCode : Option Nat
  calls : List ServiceCall
deriving DecidableEq, Repr

def triggerVariables : List String := ["RENDER_API_KEY", "WORKFLOW_SERVICE_ID"]

/-- The project that the arguments of the command name. -/
def projectArgument? (arguments : List String) : Option String :=
  (arguments.head?.map Text.trim).filter (· ≠ "")

def workflowId (environment : Environment) : String :=
  environment.getD "WORKFLOW_SERVICE_ID" "business-cycle-metrics"

def ServiceRun.succeeded (run : ServiceRun) : Bool :=
  match run.finalStatus with
  | .string status => status = "succeeded"
  | _ => false

def ServiceRun.endLine (run : ServiceRun) : String :=
  if run.succeeded then "Cycle time calculation completed successfully!"
  else s!"Cycle time calculation failed: {run.error.display}"

/-- Starts the calculation for a project and waits for its end. -/
def triggerProject (environment : Environment) (run : ServiceRun) (project : String) :
    TriggerResult :=
  let task := s!"{workflowId environment}/{Job.calculationName}"
  { printed := [s!"Triggering workflow task: {task}", s!"Project: {project}",
      s!"Task run started: {run.id.display}", s!"Status: {run.status.display}",
      s!"Task completed with status: {run.finalStatus.display}", run.endLine]
    exitCode := if run.succeeded then none else some 1
    calls := [⟨task, [project]⟩] }

/-- The command with its arguments, for a service that answers with the given run. An argument is a
text, so that one whose bytes are not UTF-8, which would hold surrogates without partners, is not
represented. -/
def trigger (environment : Environment) (arguments : List String) (run : ServiceRun) :
    TriggerResult :=
  match projectArgument? arguments, environment.given? "RENDER_API_KEY" with
  | none, _ => ⟨["Usage: python scripts/trigger_workflow.py <project-name>"], some 1, []⟩
  | some _, none => ⟨["Error: RENDER_API_KEY environment variable is required"], some 1, []⟩
  | some project, some _ => triggerProject environment run project

end DeliveryCycle.Service
