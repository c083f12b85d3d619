import DeliveryCycle.Time.Timestamp

/-!
# Rows of the collected tables

One structure for each table that collectors fill. Columns that may be null are optional here;
all others always have a value.
-/

namespace DeliveryCycle

/-- A task or ticket of a tracker, reached through one of its connections. -/
structure WorkItem where
  connectionId : Int
  id : String
  name : String
  status : String
  url : String
  createdAt : Moment
  linkedPrUrl : String
  linkedPrNumber : Option Int
  linkedBranch : String
deriving DecidableEq, Repr, Inhabited

/-- A pull request; its number counts within its repository only. -/
structure PullRequest where
  id : String
  repositoryId : String
  number : Int
  title : String
  branch : String
  createdAt : Moment
  mergedAt : Option Moment
  mergeCommit : Option String
deriving DecidableEq, Repr, Inhabited

structure PullRequestCommit where
  pullRequestId : String
  commit : String
  authoredAt : Moment
deriving DecidableEq, Repr, Inhabited

structure Deployment where
  id : String
  name : String
  result : String
  environment : String
  finishedAt : Option Moment
deriving DecidableEq, Repr, Inhabited

/-- The commit that a deployment shipped, and the entry of the successful deployment before it. -/
structure DeploymentCommit where
  id : String
  deploymentId : String
  commit : String
  environment : String
  result : String
  previousId : String
deriving DecidableEq, Repr, Inhabited

/-- A commit that lies between two deployed commits. -/
structure RangeCommit where
  newCommit : String
  oldCommit : String
  commit : String
  position : Int
deriving DecidableEq, Repr, Inhabited

/-- A row of another table, such as a repository, that belongs to a project. -/
structure ProjectScope where
  project : String
  table : String
  rowId : String
deriving DecidableEq, Repr, Inhabited

def WorkItem.key (item : WorkItem) : Int × String := (item.connectionId, item.id)

end DeliveryCycle
