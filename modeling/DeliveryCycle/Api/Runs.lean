import DeliveryCycle.Api.Message
import DeliveryCycle.Job.Registry
import DeliveryCycle.Run.Options

/-!
# The endpoints for runs

One endpoint starts a run at the workflow service and keeps track of it, the other one asks the
service about the tracked run. Each handler works in two steps, before and after it waits for the
service: other handlers may work while it waits. What a handler needs in its second step it takes
along as a `PendingStart` or a `PendingStatus`.

A run stays tracked until another run is started or a poll learns that it ended. A second step first
changes what is tracked and then checks its answer, so that a refused answer does not undo the
change.
-/

namespace DeliveryCycle.Api

open Remote (CallError Client Reply ServiceError Wire)

def runsLogger : String := "api.runs"

structure TrackedRun where
  /-- What the service gave as the identifier; it should be a text. -/
  runId : Json
  project : String
deriving Repr

abbrev Tracking := Option TrackedRun

/-- A response or an unhandled error, with what was written to the log. -/
structure Handled where
  result : Except HandlerError Response
  log : List Log.Entry

def Handled.quiet (response : Response) : Handled := ⟨.ok response, []⟩

/-- A text or null in an answer; anything else is an issue. -/
def checkOptionalText (name : String) (value : Json) : List Issue :=
  match value with
  | .null | .string _ | .unpaired _ => []
  | _ => [⟨.textRequired, [name]⟩]

/-- The surrogates of a text that cannot be written. -/
def unwritable? : Json → Option Text.UnpairedSurrogate
  | .unpaired codes => Text.firstSurrogates? codes
  | _ => none

/-- An answer that counts only if its parts have no issue and all its texts can be written. -/
def checkedAnswer (issues : List Issue) (fields : List (String × Json)) :
    Except HandlerError Response :=
  if issues.isEmpty then
    match fields.findSome? fun field => unwritable? field.2 with
    | some error => .error (.answerUnwritable error)
    | none => .ok (.success (.object fields))
  else .error (.answerRefused issues)

section Start

inductive BodyError where
  | missing
  | unreadable
  /-- The body may be JSON, but it is not read to its end. -/
  | unfinished
  | refused (issue : Issue) (input : Json)
deriving Repr

def readProject (body : String) : Except BodyError String :=
  if body = "" then .error .missing
  else
    match Json.receive body with
    | .error .malformed => .error .unreadable
    | .error _ => .error .unfinished
    | .ok (.object fields) =>
        let value := getField? fields projectField
        (requireText ["body", projectField] value).mapError fun issue =>
          .refused issue (value.getD (.object fields))
    | .ok value => .error (.refused ⟨.bodyObjectRequired, ["body"]⟩ value)

def BodyError.response : BodyError → Except HandlerError Response
  | .missing => .ok (.refusal [⟨.missing, ["body"]⟩])
  | .unreadable => .ok (.refusal [⟨.bodyUnreadable, ["body"]⟩])
  | .unfinished => .ok (.problem 400 "There was an error parsing the body")
  | .refused issue input => Response.refusalOf issue input

def startPath : String := "/api/v1/runs/start"

def notConfigured : Handled where
  result := .ok (.problem 503
    "Runs not available: RENDER_API_KEY or RENDER_WORKFLOW_SLUG not configured.")
  log := [.detailed .warning runsLogger "Run unavailable: Render API not configured"
    [("endpoint", .text startPath), ("error_type", .text "configuration_error"),
      ("missing_config", .list [.text "RENDER_API_KEY", .text "RENDER_WORKFLOW_SLUG"])]]

def startFailed (project : String) (error : ServiceError) : Handled where
  result := .ok (.problem 502 s!"Failed to trigger workflow: {error.message}")
  log := [.detailed .error runsLogger s!"Failed to trigger cycle time workflow: {error.message}"
    [("endpoint", .text startPath), ("error_type", .text "render_api_error"),
      ("project_name", .text project)]]

def startSucceeded (run : TrackedRun) : Handled where
  result := checkedAnswer (checkOptionalText "run_id" run.runId)
    [("status", .string "started"), ("run_id", run.runId),
      ("project_name", .string run.project),
      ("message", .string s!"Cycle time calculation started for project {run.project}")]
  log := [.about .info runsLogger "Cycle time workflow started: " run.runId.displayCodes
    [("run_id", .ofJson run.runId), ("project_name", .text run.project)]]

structure PendingStart where
  project : String
  reply : Except CallError Reply

/-- The first step of a start: a response at once, or a request to the service. -/
def beginStart (environment : Environment) (wire : Wire) (body : String) :
    Except Handled PendingStart × Wire :=
  match readProject body with
  | .error error => (.error ⟨error.response, []⟩, wire)
  | .ok project =>
      match Client.ofEnvironment environment with
      | none => (.error notConfigured, wire)
      | some client =>
          let (reply, wire) :=
            client.sendStart wire Job.calculationName (.array [.string project])
          (.ok ⟨project, reply⟩, wire)

/-- The second step of a start, with the run that is tracked after it. -/
def PendingStart.finish (start : PendingStart) (tracking : Tracking) : Handled × Tracking :=
  match start.reply.bind Reply.read with
  | .error (.service error) => (startFailed start.project error, tracking)
  | .error error => (⟨.error (.call error), []⟩, tracking)
  | .ok fields =>
      let run : TrackedRun := ⟨Remote.answerField fields "id", start.project⟩
      (startSucceeded run, some run)

end Start

section Status

def statusFields (running : Bool) (run : Option TrackedRun) (status error : Json) :
    List (String × Json) :=
  [("running", .bool running), ("run_id", (run.map (·.runId)).getD .null),
    ("project_name", .ofText? (run.map (·.project))), ("render_status", status),
    ("error", error)]

def statusUnknown (error : Json) : Handled :=
  .quiet (.success (.object (statusFields false none .null error)))

def isRunning : Json → Bool
  | .string status => status = "pending" || status = "running"
  | _ => false

/-- Whether a run with this status has ended well. -/
def isSucceeded : Json → Bool
  | .string status => status = "succeeded"
  | _ => false

/-- The answer about a run whose status the service did not tell. -/
def statusFailed (run : TrackedRun) (error : ServiceError) : Except HandlerError Response :=
  checkedAnswer (checkOptionalText "run_id" run.runId)
    (statusFields true (some run) .null (.string error.message))

/-- The answer about a run whose status the service told. -/
def statusTold (run : TrackedRun) (status : Json) : Except HandlerError Response :=
  let running := isRunning status
  let error : Json :=
    if running || isSucceeded status then .null else .string s!"Workflow {status.display}"
  checkedAnswer
    (checkOptionalText "run_id" run.runId ++ checkOptionalText "render_status" status)
    (statusFields running (some run) status error)

structure PendingStatus where
  run : TrackedRun
  reply : Except CallError Reply

/-- The first step of a poll: a response at once, or a question to the service. -/
def beginStatus (environment : Environment) (wire : Wire) (tracking : Tracking) :
    Except Handled PendingStatus × Wire :=
  match tracking with
  | none => (.error (statusUnknown .null), wire)
  | some run =>
      match Client.ofEnvironment environment with
      | none => (.error (statusUnknown (.string "Render API not configured")), wire)
      | some client =>
          let (reply, wire) := client.sendStatus wire run.runId
          (.ok ⟨run, reply⟩, wire)

/-- The second step of a poll, with the run that is tracked after it. -/
def PendingStatus.finish (poll : PendingStatus) (tracking : Tracking) : Handled × Tracking :=
  match poll.reply.bind Reply.read with
  | .error (.service error) => (⟨statusFailed poll.run error, []⟩, tracking)
  | .error error => (⟨.error (.call error), []⟩, tracking)
  | .ok fields =>
      let status := Remote.answerField fields "status"
      (⟨statusTold poll.run status, []⟩, if isRunning status then tracking else none)

end Status

end DeliveryCycle.Api
