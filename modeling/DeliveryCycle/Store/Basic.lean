import DeliveryCycle.Store.Rows
import DeliveryCycle.Record.Correlation

/-!
# The store

The store has two parts. `Collected` holds the rows that collectors brought in; a run only reads
them. The records are what runs derive. Every table is a list of rows in the order in which they
were put in.
-/

namespace DeliveryCycle

/-- The tables that collectors fill. -/
structure Collected where
  workItems : List WorkItem
  pullRequests : List PullRequest
  pullRequestCommits : List PullRequestCommit
  deployments : List Deployment
  deploymentCommits : List DeploymentCommit
  rangeCommits : List RangeCommit
  projectScopes : List ProjectScope
deriving DecidableEq, Repr, Inhabited

/-- The derived records, in the order in which they were first put in. -/
abbrev Ledger := List (CycleRecord Moment)

structure Store where
  collected : Collected
  ledger : Ledger
deriving DecidableEq, Repr

def Collected.empty : Collected := ⟨[], [], [], [], [], [], []⟩

def Store.empty : Store := ⟨.empty, []⟩

def Collected.workItem? (collected : Collected) (connectionId : Int) (id : String) :
    Option WorkItem :=
  collected.workItems.find? fun item => item.connectionId = connectionId && item.id = id

end DeliveryCycle
