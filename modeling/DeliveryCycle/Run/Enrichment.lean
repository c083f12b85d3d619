import DeliveryCycle.Json.Display
import DeliveryCycle.Log.Entry
import DeliveryCycle.Matching.PullRequestMatch
import DeliveryCycle.Store.Comparison

/-!
# Branches of work items

A work item whose comments linked a pull request takes over the branch of that pull request. The
linked number alone decides: of all pull requests with that number, in whatever repository, the one
that was created first gives its branch. A pass works on the items of one connection, in the order
of their identifiers, and counts those whose branch changed.
-/

namespace DeliveryCycle

def enrichmentLogger : String := "enrichment"

def WorkItem.hasLink (item : WorkItem) : Bool :=
  item.linkedPrUrl ≠ "" &&
    match item.linkedPrNumber with
    | some number => 0 < number
    | none => false

/-- Whether a pull request was created no later than another one. -/
def PullRequest.notAfter (left right : PullRequest) : Bool :=
  left.createdAt.ticks ≤ right.createdAt.ticks

namespace Collected

/-- The branch of the earliest pull request with the number linked to an item. -/
def linkedBranch? (collected : Collected) (item : WorkItem) : Option String :=
  (((collected.pullRequests.filter fun pullRequest =>
    some pullRequest.number = item.linkedPrNumber).mergeSort PullRequest.notAfter).head?.map
      (·.branch)).filter (· ≠ "")

/-- Whether a pass over a connection looks at an item. -/
def isEnrichable (connectionId : Int) (item : WorkItem) : Bool :=
  item.connectionId = connectionId && item.hasLink

/-- An item with the branch of its linked pull request, if it has a link and a branch is found. -/
def enrichedItem (collected : Collected) (connectionId : Int) (item : WorkItem) : WorkItem :=
  if isEnrichable connectionId item then
    { item with linkedBranch := (collected.linkedBranch? item).getD item.linkedBranch }
  else item

/-- What a pass writes to the log about an item that it looks at. -/
def enrichmentEntries (collected : Collected) (item : WorkItem) : List Log.Entry :=
  match collected.linkedBranch? item with
  | none =>
      let number := Json.displayInt item.linkedPrNumber
      [.plain .debug enrichmentLogger s!"No PR found for task {item.id} (PR #{number})"]
  | some branch =>
      if item.linkedBranch = branch then []
      else [.plain .info enrichmentLogger s!"Enriched task {item.id} with branch: {branch}"]

def idBefore (left right : WorkItem) : Bool := left.id ≤ right.id

/-- The items that a pass over a connection looks at, in order. -/
def enrichable (collected : Collected) (connectionId : Int) : List WorkItem :=
  (collected.workItems.filter (isEnrichable connectionId)).mergeSort idBefore

end Collected

structure Enrichment where
  collected : Collected
  count : Nat
  log : List Log.Entry

def enrichmentEndEntry (connection : String) (count : Nat) : Log.Entry :=
  .plain .info enrichmentLogger
    s!"Enriched {count} tasks with branch info for connection {connection}"

namespace Collected

def enrichedCount (collected : Collected) (connectionId : Int) : Nat :=
  (collected.workItems.filter fun item =>
    collected.enrichedItem connectionId item ≠ item).length

/-- What is collected after a pass over a connection. -/
def enriched (collected : Collected) (connectionId : Int) : Collected :=
  { collected with workItems := collected.workItems.map (collected.enrichedItem connectionId) }

/-- A pass over the work items of the connection that a value stands for, if it stands for one. -/
def enrich (collected : Collected) (connection : Json) : Except StoreError Enrichment := do
  match ← comparedInteger connection with
  | none => return ⟨collected, 0, [enrichmentEndEntry connection.display 0]⟩
  | some connectionId =>
      let count := collected.enrichedCount connectionId
      return ⟨collected.enriched connectionId, count,
        (collected.enrichable connectionId).flatMap collected.enrichmentEntries ++
          [enrichmentEndEntry connection.display count]⟩

end Collected

end DeliveryCycle
