import DeliveryCycle.Store.Basic

/-!
# Candidates of a project

A run looks at the work items whose linked pull request number belongs to a pull request of one of
the project's repositories. They are found by joining work items, pull requests and the mapping of
repositories to projects; a work item that the join finds several times is a candidate once.
Candidates are ordered by connection and then by identifier.

A run fetches its candidates in batches. The size of a batch does not change what is fetched, as
long as it is a size that the cursor accepts: a negative batch holds nothing, so that the cursor
ends at once, and a size beyond 31 bits is refused.
-/

namespace DeliveryCycle

/-- The name under which the mapping lists repositories. -/
def repositoryTable : String := "repos"

namespace Collected

def repositories (collected : Collected) (project : String) : List String :=
  (collected.projectScopes.filter fun scope =>
    scope.project = project && scope.table = repositoryTable).map (·.rowId)

/-- Whether a pull request lies in a repository mapped to the project. -/
def isOfProject (collected : Collected) (project : String) (pullRequest : PullRequest) : Bool :=
  (collected.repositories project).contains pullRequest.repositoryId

/-- The rows of the join for one work item: one for each pull request and mapping that fits. -/
def candidateRows (collected : Collected) (project : String) (item : WorkItem) : List WorkItem :=
  match item.linkedPrNumber with
  | some number =>
      if 0 < number then
        collected.pullRequests.flatMap fun pullRequest =>
          if pullRequest.number = number then
            ((collected.repositories project).filter (· = pullRequest.repositoryId)).map
              fun _ => item
          else []
      else []
  | none => []

/-- Whether a work item comes before another one as a candidate. -/
def candidateBefore (left right : WorkItem) : Bool :=
  left.connectionId < right.connectionId ||
    (left.connectionId = right.connectionId && left.id ≤ right.id)

def candidates (collected : Collected) (project : String) : List WorkItem :=
  (collected.workItems.flatMap (collected.candidateRows project)).eraseDups.mergeSort
    candidateBefore

end Collected

def greatestBatchSize : Int := Number.twoPow 31 - 1

structure BatchSizeTooLarge where
  size : Int
deriving DecidableEq, Repr

def BatchSizeTooLarge.message (_ : BatchSizeTooLarge) : String :=
  "Python int too large to convert to C int"

/-- The rows that a cursor hands out, and the error that comes in the place of their end. -/
structure Fetched (Row : Type) where
  rows : List Row
  failure : Option BatchSizeTooLarge
deriving DecidableEq, Repr

/--
The rows that a cursor hands out when it fetches a given number of rows at a time. It has one row
already when it is opened, and asks for the others of the first batch. If it gets any, it asks for
the next batch once the rows of the first one are handed out.
-/
def fetched {Row : Type} (size : Int) (rows : List Row) : Fetched Row :=
  let opened := if rows.isEmpty then 0 else 1
  if size < 0 then ⟨[], none⟩
  else if greatestBatchSize < size - opened then ⟨[], some ⟨size⟩⟩
  else if greatestBatchSize < size && 1 < rows.length then ⟨rows, some ⟨size⟩⟩
  else ⟨rows, none⟩

/-- A batch of an accepted size does not change what is fetched. -/
theorem fetched_of_le_greatest {Row : Type} {size : Int} (rows : List Row) (least : 0 ≤ size)
    (greatest : size ≤ greatestBatchSize) : fetched size rows = ⟨rows, none⟩ := by
  have opened : 0 ≤ if rows.isEmpty then (0 : Int) else 1 := by split <;> omega
  have first : ¬greatestBatchSize < size - if rows.isEmpty then 0 else 1 := by omega
  have next : ¬greatestBatchSize < size := by omega
  simp only [fetched, first, next, if_neg (Int.not_lt.mpr least), if_false, decide_false,
    Bool.false_and, Bool.false_eq_true]

end DeliveryCycle
