import DeliveryCycle.Api.Message
import DeliveryCycle.Number.IntegerText
import DeliveryCycle.Record.Ledger
import DeliveryCycle.Record.Statistics

/-!
# The endpoints for records

Three endpoints read the ledger: a list of records, the record of one task, and the summary of all
metrics. A response shows a record without a deployment with null in the place of the empty text.
-/

namespace DeliveryCycle.Api

def readInteger (location : List String) (text : String) : Except Issue Int :=
  (Number.parameterInteger text).mapError fun error =>
    match error with
    | .malformed => ⟨.integerRequired, location⟩
    | .tooManyDigits _ => ⟨.integerTooLong, location⟩

def usualLimit : Int := 100

def greatestLimit : Int := 1000

def checkLimit (location : List String) (limit : Int) : Except Issue Int :=
  if limit < 1 then .error ⟨.tooSmall, location⟩
  else if greatestLimit < limit then .error ⟨.tooLarge, location⟩
  else .ok limit

/-- The connection that a request names, if it names one. -/
def readConnection (request : Request) : Except Issue (Option Int) :=
  match request.parameter? "connection_id" with
  | none => .ok none
  | some text => (readInteger ["query", "connection_id"] text).map some

/-- The limit that a request names, or the usual one. -/
def readLimit (request : Request) : Except Issue Int :=
  match request.parameter? "limit" with
  | none => .ok usualLimit
  | some text => do checkLimit ["query", "limit"] (← readInteger ["query", "limit"] text)

def both {First Second : Type} (first : Except Issue First) (second : Except Issue Second) :
    Except (List Issue) (First × Second) :=
  match first, second with
  | .ok first, .ok second => .ok (first, second)
  | .error issue, .ok _ | .ok _, .error issue => .error [issue]
  | .error first, .error second => .error [first, second]

/-- A moment that may be missing, as data. -/
def momentJson (moment : Option Moment) : Json :=
  .ofText? (moment.map fun moment => (Timestamp.ofMoment moment).isoText)

/-- A record as a response shows it. -/
def recordJson (record : CycleRecord Moment) : Json :=
  .object [("task_id", .string record.taskId), ("connection_id", .int record.connectionId),
    ("deployment_id", .ofText? (some record.deploymentId |>.filter (· ≠ ""))),
    ("task_created_at", momentJson (some record.taskCreatedAt)),
    ("first_commit_at", momentJson record.firstCommitAt),
    ("pr_created_at", momentJson record.pullRequestCreatedAt),
    ("pr_merged_at", momentJson record.pullRequestMergedAt),
    ("deployment_at", momentJson record.deployedAt),
    ("planning_time", .ofInt? record.metrics.planning),
    ("code_time", .ofInt? record.metrics.coding),
    ("deploy_time", .ofInt? record.metrics.deploying),
    ("total_cycle_time", .ofInt? record.metrics.total)]

/-- A list of records, the oldest task first. -/
def listTasks (ledger : Ledger) (request : Request) : Except HandlerError Response :=
  match both (readConnection request) (readLimit request) with
  | .error issues => .ok (.refusal issues)
  | .ok (connectionId, limit) => do
      let records ← (ledger.list connectionId (some limit)).mapError .store
      return .success (.array (records.map recordJson))

def noRecord (connectionId : Int) (taskId : String) : Response :=
  .problem 404 s!"No cycle time record for task {taskId} on connection {connectionId}"

def showTask (ledger : Ledger) (connectionText taskId : String) : Except HandlerError Response :=
  match readInteger ["path", "connection_id"] connectionText with
  | .error issue => .ok (.refusal [issue])
  | .ok connectionId => do
      match ← (ledger.find? connectionId taskId).mapError .store with
      | none => return noRecord connectionId taskId
      | some record => return .success (recordJson record)

/-- The summary of all metrics over the records of one connection, or of all. -/
def showSummary (ledger : Ledger) (request : Request) : Except HandlerError Response :=
  match readConnection request with
  | .error issue => .ok (.refusal [issue])
  | .ok connectionId => do
      let records ← (ledger.list connectionId none).mapError .store
      return .success (CycleSummary.ofRecords (records.map (·.measured))).toJson

end DeliveryCycle.Api
