import DeliveryCycle.Json.Display
import DeliveryCycle.Log.Entry
import DeliveryCycle.Matching.DeploymentMatch
import DeliveryCycle.Matching.PullRequestMatch

/-!
# Resolving a work item

To resolve a work item is to find its pull request, the first commit and the deployment, in this
order. Not finding something is no error: without a pull request there is no correlation, and
without a deployment the correlation has none. What was found or missed goes to the log.
-/

namespace DeliveryCycle

def resolutionLogger : String := "resolver"

/-- The strategies by which a work item is resolved. -/
structure Strategies where
  pullRequest : List (Strategy ItemSubject PullRequest)
  deployment : List (Strategy CommitSubject (String × Moment))

def Strategies.usual : Strategies := ⟨pullRequestStrategies, deploymentStrategies⟩

/-- What resolving a work item gave, and what it wrote to the log. -/
structure Resolution where
  correlation : Option (Correlation Moment)
  log : List Log.Entry

def noPullRequestEntry (item : WorkItem) : Log.Entry :=
  let number := Json.displayInt item.linkedPrNumber
  .plain .debug resolutionLogger s!"PR not found for task {item.id} (pr_number: {number})"

def deploymentEntry (taskId : String) (pullRequest : MatchedPullRequest Moment)
    (deployment : Option (MatchedDeployment Moment)) : Log.Entry :=
  match pullRequest.mergeCommit.filter (· ≠ ""), deployment with
  | none, _ =>
      .plain .debug resolutionLogger
        (s!"No merge_commit_sha for PR #{pullRequest.number} (task {taskId}), " ++
          "cannot find deployment")
  | some mergeCommit, none =>
      .plain .debug resolutionLogger
        s!"No deployment found for task {taskId} (merge_commit_sha: {mergeCommit})"
  | some _, some deployment =>
      let finished := (Timestamp.ofMoment deployment.finishedAt).messageText
      .plain .info resolutionLogger
        (s!"Found deployment for task {taskId}: {deployment.deploymentId} " ++
          s!"(finished: {finished}, via {deployment.matchedBy})")

/-- Resolves a work item within a project. -/
def resolve (strategies : Strategies) (collected : Collected) (project : String)
    (item : WorkItem) : Resolution :=
  match matchPullRequest strategies.pullRequest ⟨collected, project, item⟩ with
  | none => ⟨none, [noPullRequestEntry item]⟩
  | some pullRequest =>
      let deployment := matchDeployment strategies.deployment collected pullRequest.mergeCommit
      { correlation := some {
          taskId := item.id
          connectionId := item.connectionId
          taskCreatedAt := item.createdAt
          pullRequest := pullRequest
          firstCommitAt := collected.firstCommitAt pullRequest.id
          deployment := deployment }
        log := [deploymentEntry item.id pullRequest deployment] }

end DeliveryCycle
