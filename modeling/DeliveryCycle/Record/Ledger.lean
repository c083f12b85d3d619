import DeliveryCycle.Store.Edit

/-!
# The ledger of records

A task of a connection has at most one record. Writing a record takes two statements: the first
deletes the records of the task under other deployments, the second inserts the record or, if its
primary key is there, replaces its values in place. Together they are `put`.

`upsert` writes a draft, in which any column may be missing or null. Its first statement has already
run when the second one is refused. The refusal gives back no ledger at all, so that whoever started
the statements goes on with the ledger from before. Values by column name become a draft only if
each is of the type of its column, as in an edit; a database that converts values of other types, or
stores them as they are, is not described.

A listing with a limit is taken to be the start of the listing without one. Where two records tie in
the order of the listing, this assumes that the database orders them alike with a limit and without;
here they keep the order of the table.
-/

namespace DeliveryCycle

/-- A record to be written; every column may be null. -/
structure RecordDraft where
  taskId : Option String
  deploymentId : Option String
  connectionId : Option Int
  taskCreatedAt : Option Moment
  firstCommitAt : Option Moment
  pullRequestCreatedAt : Option Moment
  pullRequestMergedAt : Option Moment
  deployedAt : Option Moment
  metrics : Metrics
deriving DecidableEq, Repr

/-- The columns of the primary key of a record. -/
inductive KeyColumn where
  | taskId
  | deploymentId
  | connectionId
deriving DecidableEq, Repr

def KeyColumn.name : KeyColumn → String
  | .taskId => "task_id"
  | .deploymentId => "deployment_id"
  | .connectionId => "connection_id"

inductive UpsertError where
  | missingKey (column : KeyColumn)
  | refused (cause : StoreError)
deriving DecidableEq, Repr

/-- What a user reads about a draft that is not written, where the text is not the database's. -/
def UpsertError.message? : UpsertError → Option String
  | .missingKey column => some s!"'{column.name}'"
  | .refused cause => cause.message?

namespace RecordDraft

/-- The columns of the primary key in the order in which the first statement reads them. -/
def readKeys : List KeyColumn := [.taskId, .connectionId, .deploymentId]

/-- Whether each column of a record is given a value of its type, or none. -/
def areTyped (cells : CellMap) : Bool :=
  Schema.cycleRecords.columns.all fun column => column.kind.admits (cellOf cells column.name)

/-- The draft with values that are of the types of their columns. -/
def ofTypedCells (cells : CellMap) : RecordDraft :=
  let text (name : String) := (cellOf cells name).toText?.join
  let integer (name : String) := (cellOf cells name).toInt?.join
  let moment (name : String) := (cellOf cells name).toMoment?.join
  { taskId := text "task_id"
    deploymentId := text "deployment_id"
    connectionId := integer "connection_id"
    taskCreatedAt := moment "task_created_at"
    firstCommitAt := moment "first_commit_at"
    pullRequestCreatedAt := moment "pr_created_at"
    pullRequestMergedAt := moment "pr_merged_at"
    deployedAt := moment "deployment_at"
    metrics := {
      planning := integer "planning_time"
      coding := integer "code_time"
      deploying := integer "deploy_time"
      total := integer "total_cycle_time" } }

/-- The draft with given values. Columns other than the key may be missing, and a value of another
type than its column is refused. -/
def ofCells (cells : CellMap) : Except UpsertError RecordDraft :=
  match readKeys.find? fun column => (getField? cells column.name).isNone with
  | some column => .error (.missingKey column)
  | none =>
      if areTyped cells then .ok (ofTypedCells cells) else .error (.refused .integrity)

/-- The record that a draft stands for, if nothing that must be given is null. -/
def complete? (draft : RecordDraft) : Option (CycleRecord Moment) := do
  let taskId ← draft.taskId
  let deploymentId ← draft.deploymentId
  let connectionId ← draft.connectionId
  let taskCreatedAt ← draft.taskCreatedAt
  return ⟨taskId, deploymentId, connectionId, taskCreatedAt, draft.firstCommitAt,
    draft.pullRequestCreatedAt, draft.pullRequestMergedAt, draft.deployedAt, draft.metrics⟩

/-- The integers of a draft that the second statement adds to those of the first. -/
def measures (draft : RecordDraft) : List Int :=
  [draft.metrics.planning, draft.metrics.coding, draft.metrics.deploying,
    draft.metrics.total].filterMap id

end RecordDraft

/-- The draft that holds exactly the values of a record. -/
def CycleRecord.draft (record : CycleRecord Moment) : RecordDraft where
  taskId := some record.taskId
  deploymentId := some record.deploymentId
  connectionId := some record.connectionId
  taskCreatedAt := some record.taskCreatedAt
  firstCommitAt := record.firstCommitAt
  pullRequestCreatedAt := record.pullRequestCreatedAt
  pullRequestMergedAt := record.pullRequestMergedAt
  deployedAt := record.deployedAt
  metrics := record.metrics

@[simp] theorem CycleRecord.complete?_draft (record : CycleRecord Moment) :
    record.draft.complete? = some record := rfl

/-- Whether the first statement deletes a record: it is of the draft's task, under another
deployment. A draft without a task is about none, and every deployment is another one than none. -/
def RecordDraft.displaces (draft : RecordDraft) (other : CycleRecord Moment) : Bool :=
  draft.connectionId = some other.connectionId && draft.taskId = some other.taskId &&
    draft.deploymentId ≠ some other.deploymentId

/-- How the statements of an upsert ended, and the ledger with all that they did until then. -/
structure UpsertWork where
  result : Except UpsertError Unit
  ledger : Ledger

/-- What is left of an upsert when its transaction ends; statements that were refused leave none. -/
def UpsertWork.kept (work : UpsertWork) : Except UpsertError Ledger :=
  work.result.map fun () => work.ledger

namespace Ledger

/-- The records of a task of a connection. -/
def recordsOf (ledger : Ledger) (task : Int × String) : Ledger :=
  ledger.filter fun record => record.task = task

/-- The first statement: the records of the task under other deployments go. -/
def dropOthers (ledger : Ledger) (record : CycleRecord Moment) : Ledger :=
  ledger.filter fun other =>
    !(other.task = record.task && other.deploymentId ≠ record.deploymentId)

/-- The second statement: the record takes the place of its primary key, or the end. -/
def insertOrReplace (ledger : Ledger) (record : CycleRecord Moment) : Ledger :=
  match ledger with
  | [] => [record]
  | other :: rest =>
      if other.key = record.key then record :: rest else other :: insertOrReplace rest record

def put (ledger : Ledger) (record : CycleRecord Moment) : Ledger :=
  insertOrReplace (dropOthers ledger record) record

/-- The first statement for a draft: the records that it displaces go. -/
def dropDisplaced (ledger : Ledger) (draft : RecordDraft) : Ledger :=
  ledger.filter fun other => !draft.displaces other

/-- The two statements of an upsert. Each is refused before it does anything if one of its integers
does not fit, and the second one also if something is null that must be given. -/
def upsertStatements (ledger : Ledger) (draft : RecordDraft) : UpsertWork :=
  if !draft.connectionId.all fitsColumn then ⟨.error (.refused .integerTooLarge), ledger⟩
  else
    let left := ledger.dropDisplaced draft
    if !draft.measures.all fitsColumn then ⟨.error (.refused .integerTooLarge), left⟩
    else
      match draft.complete? with
      | some record => ⟨.ok (), left.insertOrReplace record⟩
      | none => ⟨.error (.refused .integrity), left⟩

def upsert (ledger : Ledger) (draft : RecordDraft) : Except UpsertError Ledger :=
  (ledger.upsertStatements draft).kept

/-- An upsert of values by column name; it is refused if a column of the key is not given or a value
is of another type than its column. -/
def upsertCells (ledger : Ledger) (given : CellMap) : Except UpsertError Ledger :=
  (RecordDraft.ofCells given).bind ledger.upsert

/-- Whether a record is listed before another one: older tasks first, then by task. -/
def listedBefore (left right : CycleRecord Moment) : Bool :=
  left.taskCreatedAt.ticks < right.taskCreatedAt.ticks ||
    (left.taskCreatedAt.ticks = right.taskCreatedAt.ticks && left.taskId ≤ right.taskId)

/-- The records of one connection, or of all of them. -/
def ofConnection (ledger : Ledger) : (connectionId : Option Int) → Ledger
  | some connectionId => ledger.filter fun record => record.connectionId = connectionId
  | none => ledger

/-- The records of one connection, or of all, in the order of the listing. -/
def listing (ledger : Ledger) (connectionId : Option Int) : Ledger :=
  (ledger.ofConnection connectionId).mergeSort listedBefore

/-- The start of a listing; zero and negative limits leave it whole. -/
def limited (records : Ledger) (limit : Option Int) : Ledger :=
  match limit with
  | some limit => if 0 < limit then records.take limit.toNat else records
  | none => records

/-- The records of one connection, or of all, at most as many as the limit allows. That these are
the first of the whole listing is an assumption about how the database orders ties. -/
def list (ledger : Ledger) (connectionId limit : Option Int) : Except StoreError Ledger := do
  for value in connectionId.toList ++ limit.toList do
    checkInteger value
  return (ledger.listing connectionId).limited limit

def find? (ledger : Ledger) (connectionId : Int) (taskId : String) :
    Except StoreError (Option (CycleRecord Moment)) := do
  checkInteger connectionId
  return List.find? (fun record => record.task = (connectionId, taskId)) ledger

end Ledger

end DeliveryCycle
