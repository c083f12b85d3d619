import DeliveryCycle.Schema.Table
import DeliveryCycle.Store.Basic

/-!
# Rows as cells

A row of a table can be seen as one cell for each column, in the order of the schema. `toCells`
and `ofCells?` go between the two forms, and reading what was written gives the row back.
-/

namespace DeliveryCycle

open Schema

/-- A row type with its table in the schema. -/
class Entity (Row : Type) where
  table : Table
  toCells : Row → List Cell
  ofCells? : List Cell → Option Row

namespace Schema.Cell

def ofInt? : Option Int → Cell
  | some value => .integer value
  | none => .null

def ofText? : Option String → Cell
  | some value => .text value
  | none => .null

def ofMoment? : Option Moment → Cell
  | some value => .moment value
  | none => .null

/-- The integer of a cell, if the cell holds an integer or null. -/
def toInt? : Cell → Option (Option Int)
  | .null => some none
  | .integer value => some (some value)
  | _ => none

/-- The text of a cell, if the cell holds a text or null. -/
def toText? : Cell → Option (Option String)
  | .null => some none
  | .text value => some (some value)
  | _ => none

/-- The moment of a cell, if the cell holds a moment or null. -/
def toMoment? : Cell → Option (Option Moment)
  | .null => some none
  | .moment value => some (some value)
  | _ => none

@[simp] theorem toInt?_ofInt? (value : Option Int) : (ofInt? value).toInt? = some value := by
  cases value <;> rfl

@[simp] theorem toText?_ofText? (value : Option String) :
    (ofText? value).toText? = some value := by
  cases value <;> rfl

@[simp] theorem toMoment?_ofMoment? (value : Option Moment) :
    (ofMoment? value).toMoment? = some value := by
  cases value <;> rfl

end Schema.Cell

instance : Entity WorkItem where
  table := workItems
  toCells row := [.integer row.connectionId, .text row.id, .text row.name, .text row.status,
    .text row.url, .moment row.createdAt, .text row.linkedPrUrl, .ofInt? row.linkedPrNumber,
    .text row.linkedBranch]
  ofCells?
    | [.integer connectionId, .text id, .text name, .text status, .text url, .moment createdAt,
        .text linkedPrUrl, linkedPrNumber, .text linkedBranch] => do
        let linkedPrNumber ← linkedPrNumber.toInt?
        return ⟨connectionId, id, name, status, url, createdAt, linkedPrUrl, linkedPrNumber,
          linkedBranch⟩
    | _ => none

instance : Entity PullRequest where
  table := pullRequests
  toCells row := [.text row.id, .text row.repositoryId, .integer row.number, .text row.title,
    .text row.branch, .moment row.createdAt, .ofMoment? row.mergedAt, .ofText? row.mergeCommit]
  ofCells?
    | [.text id, .text repositoryId, .integer number, .text title, .text branch,
        .moment createdAt, mergedAt, mergeCommit] => do
        let mergedAt ← mergedAt.toMoment?
        let mergeCommit ← mergeCommit.toText?
        return { id, repositoryId, number, title, branch, createdAt, mergedAt, mergeCommit }
    | _ => none

instance : Entity PullRequestCommit where
  table := pullRequestCommits
  toCells row := [.text row.pullRequestId, .text row.commit, .moment row.authoredAt]
  ofCells?
    | [.text pullRequestId, .text commit, .moment authoredAt] =>
        some { pullRequestId, commit, authoredAt }
    | _ => none

instance : Entity Deployment where
  table := deployments
  toCells row := [.text row.id, .text row.name, .text row.result, .text row.environment,
    .ofMoment? row.finishedAt]
  ofCells?
    | [.text id, .text name, .text result, .text environment, finishedAt] => do
        let finishedAt ← finishedAt.toMoment?
        return { id, name, result, environment, finishedAt }
    | _ => none

instance : Entity DeploymentCommit where
  table := deploymentCommits
  toCells row := [.text row.id, .text row.deploymentId, .text row.commit, .text row.environment,
    .text row.result, .text row.previousId]
  ofCells?
    | [.text id, .text deploymentId, .text commit, .text environment, .text result,
        .text previousId] =>
        some { id, deploymentId, commit, environment, result, previousId }
    | _ => none

instance : Entity RangeCommit where
  table := commitsDiffs
  toCells row := [.text row.newCommit, .text row.oldCommit, .text row.commit,
    .integer row.position]
  ofCells?
    | [.text newCommit, .text oldCommit, .text commit, .integer position] =>
        some { newCommit, oldCommit, commit, position }
    | _ => none

instance : Entity ProjectScope where
  table := projectMappings
  toCells row := [.text row.project, .text row.table, .text row.rowId]
  ofCells?
    | [.text project, .text table, .text rowId] => some { project, table, rowId }
    | _ => none

instance : Entity (CycleRecord Moment) where
  table := cycleRecords
  toCells row := [.text row.taskId, .text row.deploymentId, .integer row.connectionId,
    .moment row.taskCreatedAt, .ofMoment? row.firstCommitAt, .ofMoment? row.pullRequestCreatedAt,
    .ofMoment? row.pullRequestMergedAt, .ofMoment? row.deployedAt, .ofInt? row.metrics.planning,
    .ofInt? row.metrics.coding, .ofInt? row.metrics.deploying, .ofInt? row.metrics.total]
  ofCells?
    | [.text taskId, .text deploymentId, .integer connectionId, .moment taskCreatedAt,
        firstCommitAt, pullRequestCreatedAt, pullRequestMergedAt, deployedAt, planning, coding,
        deploying, total] => do
        let firstCommitAt ← firstCommitAt.toMoment?
        let pullRequestCreatedAt ← pullRequestCreatedAt.toMoment?
        let pullRequestMergedAt ← pullRequestMergedAt.toMoment?
        let deployedAt ← deployedAt.toMoment?
        let planning ← planning.toInt?
        let coding ← coding.toInt?
        let deploying ← deploying.toInt?
        let total ← total.toInt?
        return ⟨taskId, deploymentId, connectionId, taskCreatedAt, firstCommitAt,
          pullRequestCreatedAt, pullRequestMergedAt, deployedAt,
          ⟨planning, coding, deploying, total⟩⟩
    | _ => none

theorem CycleRecord.ofCells?_toCells (record : CycleRecord Moment) :
    Entity.ofCells? (Entity.toCells record) = some record := by
  simp [Entity.ofCells?, Entity.toCells]

theorem WorkItem.ofCells?_toCells (item : WorkItem) :
    Entity.ofCells? (Entity.toCells item) = some item := by
  simp [Entity.ofCells?, Entity.toCells]

end DeliveryCycle
