import DeliveryCycle.Matching.Selection
import DeliveryCycle.Matching.Strategy
import DeliveryCycle.Text.Pattern

/-!
# The pull request of a work item

Two strategies find the pull request of a work item among those of the project's repositories. The
first looks for the task's identifier inside the title or the branch, as a literal text and
without regard to the case of ASCII letters. The second looks for the number that was linked to
the task. Of several pull requests the one that was created first wins, then the one with the
smaller identifier.
-/

namespace DeliveryCycle

/-- What a pull request is looked up for: a work item within a project. -/
structure ItemSubject where
  collected : Collected
  project : String
  item : WorkItem

/-- Whether a pull request was created before another one; identifiers decide between equals. -/
def PullRequest.createdBefore (left right : PullRequest) : Bool :=
  left.createdAt.ticks < right.createdAt.ticks ||
    (left.createdAt.ticks = right.createdAt.ticks && left.id ≤ right.id)

/-- Whether a pull request mentions a task in its title or its branch. -/
def PullRequest.mentions (pullRequest : PullRequest) (taskId : String) : Bool :=
  Text.contains pullRequest.title taskId || Text.contains pullRequest.branch taskId

namespace ItemSubject

def pullRequestsWhere (subject : ItemSubject) (condition : PullRequest → Bool) :
    List PullRequest :=
  (subject.collected.pullRequests.filter fun pullRequest =>
    subject.collected.isOfProject subject.project pullRequest && condition pullRequest).mergeSort
      PullRequest.createdBefore

end ItemSubject

/-- Pull requests that mention the task; a task without identifier is mentioned nowhere. -/
def byTaskReference : Strategy ItemSubject PullRequest where
  name := "pull_request_by_task_reference"
  rows? subject :=
    if subject.item.id = "" then none
    else some (subject.pullRequestsWhere (·.mentions subject.item.id))

/-- Pull requests with the number linked to the task, if that number is positive. -/
def byLinkedNumber : Strategy ItemSubject PullRequest where
  name := "pull_request_by_linked_number"
  rows? subject :=
    match subject.item.linkedPrNumber with
    | some number =>
        if 0 < number then some (subject.pullRequestsWhere (·.number = number)) else none
    | none => none

def pullRequestStrategies : List (Strategy ItemSubject PullRequest) :=
  [byTaskReference, byLinkedNumber]

/-- The pull request of a work item, by the given strategies. -/
def matchPullRequest (strategies : List (Strategy ItemSubject PullRequest))
    (subject : ItemSubject) : Option (MatchedPullRequest Moment) :=
  (Strategy.firstMatch strategies subject).map fun (name, pullRequest) =>
    { id := pullRequest.id
      number := pullRequest.number
      createdAt := pullRequest.createdAt
      mergedAt := pullRequest.mergedAt
      mergeCommit := pullRequest.mergeCommit
      matchedBy := name }

/-- The time of the earliest commit of a pull request. -/
def Collected.firstCommitAt (collected : Collected) (pullRequestId : String) : Option Moment :=
  ((collected.pullRequestCommits.filter fun commit =>
    commit.pullRequestId = pullRequestId).map (·.authoredAt.ticks)).min?.map Moment.mk

end DeliveryCycle
