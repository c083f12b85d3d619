import DeliveryCycle.Time.Timestamp

/-!
# Tables

The tables of the database by name, columns and primary key. All tables but the last one are
filled by collectors outside this program; they are read here and, apart from the branch of a work
item, never changed. The last table holds what this program derives from them.
-/

namespace DeliveryCycle.Schema

/-- What a column holds. -/
inductive ColumnKind where
  | text (length : Nat)
  | integer
  | timestamp
deriving DecidableEq, Repr

inductive Cell where
  | null
  | integer (value : Int)
  | text (value : String)
  | moment (value : Moment)
deriving DecidableEq, Repr, Inhabited

/-- Whether a cell is of the type of a column. Null is of every type, and a text of any length is of
the type of a text column. -/
def ColumnKind.admits : ColumnKind → Cell → Bool
  | _, .null => true
  | .text _, .text _ => true
  | .integer, .integer _ => true
  | .timestamp, .moment _ => true
  | _, _ => false

/-- A column with the value it takes when none is given. -/
structure Column where
  name : String
  kind : ColumnKind
  nullable : Bool
  initial : Cell
deriving Repr

/-- Who fills a table. -/
inductive Owner where
  | collectors
  | program
deriving DecidableEq, Repr

structure Index where
  name : String
  columns : List String
deriving Repr

structure Table where
  name : String
  owner : Owner
  columns : List Column
  key : List String
  indexes : List Index
deriving Repr

def requiredText (name : String) (length : Nat) : Column := ⟨name, .text length, false, .null⟩

def emptyText (name : String) (length : Nat) : Column := ⟨name, .text length, false, .text ""⟩

def optionalText (name : String) (length : Nat) : Column := ⟨name, .text length, true, .null⟩

def requiredInteger (name : String) : Column := ⟨name, .integer, false, .null⟩

def optionalInteger (name : String) : Column := ⟨name, .integer, true, .null⟩

def requiredMoment (name : String) : Column := ⟨name, .timestamp, false, .null⟩

def optionalMoment (name : String) : Column := ⟨name, .timestamp, true, .null⟩

/-- Tasks and tickets from the trackers. -/
def workItems : Table where
  name := "work_items"
  owner := .collectors
  columns := [requiredInteger "connection_id", requiredText "id" 255, emptyText "name" 255,
    emptyText "status" 100, emptyText "url" 500, requiredMoment "created_at",
    emptyText "linked_pr_url" 500, optionalInteger "linked_pr_number",
    emptyText "linked_branch" 255]
  key := ["connection_id", "id"]
  indexes := [⟨"idx_work_items_linked_pr_number", ["linked_pr_number"]⟩]

/-- Pull requests from source control. -/
def pullRequests : Table where
  name := "pull_requests"
  owner := .collectors
  columns := [requiredText "id" 255, requiredText "base_repo_id" 255,
    requiredInteger "pull_request_key", emptyText "title" 500, emptyText "head_ref" 255,
    requiredMoment "created_date", optionalMoment "merged_date",
    optionalText "merge_commit_sha" 40]
  key := ["id"]
  indexes := [⟨"ix_pull_requests_base_repo_id", ["base_repo_id"]⟩,
    ⟨"ix_pull_requests_pull_request_key", ["pull_request_key"]⟩]

def pullRequestCommits : Table where
  name := "pull_request_commits"
  owner := .collectors
  columns := [requiredText "pull_request_id" 255, requiredText "commit_sha" 40,
    requiredMoment "commit_authored_date"]
  key := ["pull_request_id", "commit_sha"]
  indexes := []

/-- Deployments with their result. -/
def deployments : Table where
  name := "cicd_deployments"
  owner := .collectors
  columns := [requiredText "id" 255, emptyText "name" 255, requiredText "result" 100,
    emptyText "environment" 255, optionalMoment "finished_date"]
  key := ["id"]
  indexes := [⟨"ix_cicd_deployments_result", ["result"]⟩]

/-- The commits that deployments shipped, each chained to the one before. -/
def deploymentCommits : Table where
  name := "cicd_deployment_commits"
  owner := .collectors
  columns := [requiredText "id" 255, requiredText "cicd_deployment_id" 255,
    requiredText "commit_sha" 40, emptyText "environment" 255, emptyText "result" 100,
    emptyText "prev_success_deployment_commit_id" 255]
  key := ["id"]
  indexes := [⟨"ix_cicd_deployment_commits_cicd_deployment_id", ["cicd_deployment_id"]⟩,
    ⟨"ix_cicd_deployment_commits_commit_sha", ["commit_sha"]⟩]

/-- The commits between two deployed commits. -/
def commitsDiffs : Table where
  name := "commits_diffs"
  owner := .collectors
  columns := [requiredText "new_commit_sha" 40, requiredText "old_commit_sha" 40,
    requiredText "commit_sha" 40, ⟨"sorting_index", .integer, false, .integer 0⟩]
  key := ["new_commit_sha", "old_commit_sha", "commit_sha"]
  indexes := [⟨"idx_commits_diffs_commit_sha", ["commit_sha"]⟩]

/-- Which rows of which tables belong to a project. -/
def projectMappings : Table where
  name := "project_mapping"
  owner := .collectors
  columns := [requiredText "project_name" 255, requiredText "table" 255,
    requiredText "row_id" 255]
  key := ["project_name", "table", "row_id"]
  indexes := []

/-- The derived records that link a work item to the deployment that shipped it. -/
def cycleRecords : Table where
  name := "task_deployments"
  owner := .program
  columns := [requiredText "task_id" 255, requiredText "deployment_id" 255,
    requiredInteger "connection_id", requiredMoment "task_created_at",
    optionalMoment "first_commit_at", optionalMoment "pr_created_at",
    optionalMoment "pr_merged_at", optionalMoment "deployment_at",
    optionalInteger "planning_time", optionalInteger "code_time",
    optionalInteger "deploy_time", optionalInteger "total_cycle_time"]
  key := ["task_id", "deployment_id", "connection_id"]
  indexes := [⟨"idx_task_deployments_task", ["connection_id", "task_id"]⟩]

def tables : List Table :=
  [workItems, pullRequests, pullRequestCommits, deployments, deploymentCommits, commitsDiffs,
    projectMappings, cycleRecords]

def table? (name : String) : Option Table := tables.find? fun table => table.name = name

end DeliveryCycle.Schema
