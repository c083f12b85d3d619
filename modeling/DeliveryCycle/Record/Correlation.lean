import DeliveryCycle.Record.Metrics

/-!
# Correlations and records

A correlation is what was found for one work item: its pull request, the first commit, and the
deployment that shipped it. A record keeps the identifiers, the milestones and the metrics of a
correlation. The deployment of a record is the empty text until one is found.
-/

namespace DeliveryCycle

/-- A pull request matched to a work item, with the name of the strategy that found it. -/
structure MatchedPullRequest (Point : Type) where
  id : String
  number : Int
  createdAt : Point
  mergedAt : Option Point
  mergeCommit : Option String
  matchedBy : String
deriving DecidableEq, Repr

/-- A deployment that shipped a merge commit, with the name of the strategy that found it. -/
structure MatchedDeployment (Point : Type) where
  deploymentId : String
  finishedAt : Point
  matchedBy : String
deriving DecidableEq, Repr

/-- Everything that was found for one work item. -/
structure Correlation (Point : Type) where
  taskId : String
  connectionId : Int
  taskCreatedAt : Point
  pullRequest : MatchedPullRequest Point
  firstCommitAt : Option Point
  deployment : Option (MatchedDeployment Point)
deriving DecidableEq, Repr

/-- The derived record of one work item. -/
structure CycleRecord (Point : Type) where
  taskId : String
  deploymentId : String
  connectionId : Int
  taskCreatedAt : Point
  firstCommitAt : Option Point
  pullRequestCreatedAt : Option Point
  pullRequestMergedAt : Option Point
  deployedAt : Option Point
  metrics : Metrics
deriving DecidableEq, Repr

namespace CycleRecord

variable {Point : Type}

def task (record : CycleRecord Point) : Int × String := (record.connectionId, record.taskId)

def key (record : CycleRecord Point) : String × String × Int :=
  (record.taskId, record.deploymentId, record.connectionId)

def milestones (record : CycleRecord Point) : Milestones Point where
  created := record.taskCreatedAt
  firstCommit := record.firstCommitAt
  merged := record.pullRequestMergedAt
  deployed := record.deployedAt

end CycleRecord

namespace Correlation

variable {Point : Type}

def milestones (correlation : Correlation Point) : Milestones Point where
  created := correlation.taskCreatedAt
  firstCommit := correlation.firstCommitAt
  merged := correlation.pullRequest.mergedAt
  deployed := correlation.deployment.map (·.finishedAt)

def withMetrics (correlation : Correlation Point) (metrics : Metrics) : CycleRecord Point where
  taskId := correlation.taskId
  deploymentId := (correlation.deployment.map (·.deploymentId)).getD ""
  connectionId := correlation.connectionId
  taskCreatedAt := correlation.taskCreatedAt
  firstCommitAt := correlation.firstCommitAt
  pullRequestCreatedAt := some correlation.pullRequest.createdAt
  pullRequestMergedAt := correlation.pullRequest.mergedAt
  deployedAt := correlation.deployment.map (·.finishedAt)
  metrics := metrics

def record [Time.Clock Point] (correlation : Correlation Point) :
    Except Time.SpanError (CycleRecord Point) :=
  correlation.milestones.measure.map correlation.withMetrics

/-- The record of a correlation between moments. -/
def momentRecord (correlation : Correlation Moment) : CycleRecord Moment :=
  correlation.withMetrics correlation.milestones.metrics

/-- A correlation between moments always has its record. -/
theorem record_moment (correlation : Correlation Moment) :
    correlation.record = .ok correlation.momentRecord := by
  simp [record, momentRecord, Milestones.measure_moment, Except.map]

end Correlation

end DeliveryCycle
