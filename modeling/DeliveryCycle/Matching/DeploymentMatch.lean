import DeliveryCycle.Matching.Strategy
import DeliveryCycle.Store.Basic

/-!
# The deployment of a merge commit

A deployment ships all commits between its own commit and the one of the successful deployment
before it, not only the commit it was built from. So the deployment of a merge commit is found
through the commits that are listed between two deployed commits. Deployments to production are
preferred; of several the one that finished first is taken.
-/

namespace DeliveryCycle

/-- What a deployment is looked up for: a merge commit. -/
structure CommitSubject where
  collected : Collected
  mergeCommit : String

def productionEnvironment : String := "PRODUCTION"

def successResult : String := "SUCCESS"

namespace Collected

/-- The commit of the deployment before; empty if the entry it names is not there. -/
def previousCommit (collected : Collected) (shipped : DeploymentCommit) : String :=
  ((collected.deploymentCommits.find? fun other => other.id = shipped.previousId).map
    (·.commit)).getD ""

/-- Whether a commit lies between the commit of a deployment and the one before. -/
def rangeHolds (collected : Collected) (shipped : DeploymentCommit) (commit : String) : Bool :=
  collected.rangeCommits.any fun entry =>
    entry.newCommit = shipped.commit && entry.oldCommit = collected.previousCommit shipped &&
      entry.commit = commit

/-- The successful deployment of an identifier with the time at which it finished. -/
def finished (collected : Collected) (deploymentId : String) : List (String × Moment) :=
  collected.deployments.filterMap fun deployment =>
    if deployment.id = deploymentId && deployment.result = successResult then
      deployment.finishedAt.map fun finishedAt => (deployment.id, finishedAt)
    else none

end Collected

namespace CommitSubject

/-- The successful deployments that ship the merge commit, in some environment or in any. -/
def shipping (subject : CommitSubject) (environment : Option String) : List (String × Moment) :=
  let entries := subject.collected.deploymentCommits.filter fun entry =>
    entry.previousId ≠ "" && (environment.isNone || environment = some entry.environment) &&
      subject.collected.rangeHolds entry subject.mergeCommit
  (entries.flatMap fun entry => subject.collected.finished entry.deploymentId).mergeSort
    fun left right => left.2.ticks ≤ right.2.ticks

end CommitSubject

def inProduction : Strategy CommitSubject (String × Moment) where
  name := "deployment_in_production"
  rows? subject := some (subject.shipping (some productionEnvironment))

def inAnyEnvironment : Strategy CommitSubject (String × Moment) where
  name := "deployment_in_any_environment"
  rows? subject := some (subject.shipping none)

def deploymentStrategies : List (Strategy CommitSubject (String × Moment)) :=
  [inProduction, inAnyEnvironment]

/-- The deployment of a merge commit, by the given strategies; an empty commit has none. -/
def matchDeployment (strategies : List (Strategy CommitSubject (String × Moment)))
    (collected : Collected) (mergeCommit : Option String) : Option (MatchedDeployment Moment) :=
  match mergeCommit with
  | none => none
  | some mergeCommit =>
      if mergeCommit = "" then none
      else
        (Strategy.firstMatch strategies ⟨collected, mergeCommit⟩).map
          fun (name, deploymentId, finishedAt) =>
            { deploymentId, finishedAt, matchedBy := name }

end DeliveryCycle
