import DeliveryCycle.Proofs.Matching.Agreement
import DeliveryCycle.Proofs.Run.Branches
import DeliveryCycle.Proofs.Run.Calculation

/-!
# Branches and linked numbers

A pass over a connection and the lookup of a project both go by the number that is linked to a work
item. The lookup asks only for pull requests in the repositories of the project, because a number
counts within one repository only. A pass asks for those of all repositories, and an older pull
request of another project takes the place of the one that was linked. `linkedBranch_after_pass`
says when a work item has the branch of the pull request that the lookup finds.
-/

namespace DeliveryCycle

namespace Collected

variable {collected : Collected} {project : String} {item : WorkItem} {number : Option Int}
variable {first selected : PullRequest}

/-- No pull request with the number was created before this one, in whatever repository. -/
structure IsFirst (collected : Collected) (number : Option Int) (first : PullRequest) : Prop where
  mem : first ∈ collected.pullRequests
  numbered : some first.number = number
  earliest : ∀ other ∈ collected.pullRequests, some other.number = number →
    first.createdAt.ticks ≤ other.createdAt.ticks

/-- The pull request whose branch a pass takes for a number. -/
def firstOfNumber? (collected : Collected) (number : Int) : Option PullRequest :=
  ((collected.pullRequests.filter fun pullRequest => pullRequest.number = number).mergeSort
    PullRequest.notAfter).head?

theorem isFirst_of_firstOfNumber? {number : Int}
    (found : collected.firstOfNumber? number = some first) :
    collected.IsFirst (some number) first := by
  have firstMem := List.mem_mergeSort.mp (List.mem_of_head? found)
  rcases List.mem_filter.mp firstMem with ⟨mem, numbered⟩
  refine ⟨mem, congrArg some (of_decide_eq_true numbered), ?_⟩
  intro other otherMem otherNumbered
  apply le_of_head?_mergeSort found
  exact List.mem_filter.mpr ⟨otherMem, by simpa using otherNumbered⟩

theorem firstOfNumber?_isSome (mem : selected ∈ collected.pullRequests) :
    (collected.firstOfNumber? selected.number).isSome := by
  have found : selected ∈ (collected.pullRequests.filter fun pullRequest =>
      pullRequest.number = selected.number).mergeSort PullRequest.notAfter :=
    List.mem_mergeSort.mpr (List.mem_filter.mpr ⟨mem, by simp⟩)
  rcases List.exists_cons_of_ne_nil (List.ne_nil_of_mem found) with ⟨head, rest, sorted⟩
  simp [firstOfNumber?, sorted]

theorem linkedBranch?_eq {number : Int} (linked : item.linkedPrNumber = some number) :
    collected.linkedBranch? item =
      ((collected.firstOfNumber? number).map (·.branch)).filter (· ≠ "") := by
  simp only [linkedBranch?, firstOfNumber?, linked, Option.some.injEq]

/-- The branch that is looked up for a work item is the one of a first pull request. -/
theorem exists_isFirst (mem : selected ∈ collected.pullRequests)
    (numbered : some selected.number = item.linkedPrNumber) :
    ∃ first, collected.IsFirst item.linkedPrNumber first ∧
      collected.linkedBranch? item = (some first.branch).filter (· ≠ "") := by
  rcases Option.isSome_iff_exists.mp (firstOfNumber?_isSome mem) with ⟨first, found⟩
  refine ⟨first, numbered ▸ isFirst_of_firstOfNumber? found, ?_⟩
  rw [linkedBranch?_eq numbered.symm, found]
  rfl

/-- The lookup by the linked number finds a pull request of the project. -/
theorem exists_selected (linked : collected.IsLinked project item) :
    ∃ selected, byLinkedNumber.best? ⟨collected, project, item⟩ =
        some (byLinkedNumber.name, selected) ∧
      selected ∈ collected.pullRequests ∧ some selected.number = item.linkedPrNumber := by
  rcases linked with ⟨number, same, positive, pullRequest, mem, numbered, ofProject⟩
  have found : pullRequest ∈ ItemSubject.pullRequestsWhere ⟨collected, project, item⟩
      (·.number = number) :=
    mem_pullRequestsWhere_iff.mpr ⟨mem, ofProject, by simpa using numbered⟩
  rcases List.exists_cons_of_ne_nil (List.ne_nil_of_mem found) with ⟨selected, rest, rows⟩
  have selectedMem : selected ∈ ItemSubject.pullRequestsWhere ⟨collected, project, item⟩
      (·.number = number) := by simp [rows]
  rcases mem_pullRequestsWhere_iff.mp selectedMem with ⟨inRows, _, selectedNumbered⟩
  refine ⟨selected, ?_, inRows, ?_⟩
  · simp [Strategy.best?, byLinkedNumber, same, positive, rows]
  · rw [same]
    simpa using selectedNumbered

theorem hasLink_of_isLinked (linked : collected.IsLinked project item)
    (given : item.linkedPrUrl ≠ "") : item.hasLink = true := by
  rcases linked with ⟨number, same, positive, _⟩
  simp [WorkItem.hasLink, given, same, positive]

/-- A pass over the connection of a candidate with a link gives it the branch of the pull request
that its project finds by the linked number, unless that branch is empty. -/
def BranchesAgree (collected : Collected) (project : String) : Prop :=
  ∀ item ∈ collected.candidates project, item.linkedPrUrl ≠ "" →
    ∃ enrichment selected after,
      collected.enrich (.int item.connectionId) = .ok enrichment ∧
      byLinkedNumber.best? ⟨collected, project, item⟩ = some (byLinkedNumber.name, selected) ∧
      enrichment.collected.workItem? item.connectionId item.id = some after ∧
      (selected.branch ≠ "" → after.linkedBranch = selected.branch)

end Collected

/-- The branch of a candidate with a link after a pass over its connection, and the pull request
that its project finds by the linked number. The branch of the pull request, if it has one, is that
of the candidate exactly if the first pull request with the number, in whatever repository, has the
same branch, or has none and the candidate had that branch before. This is so if all pull requests
with the number that were not created after the one found have the same branch. -/
theorem linkedBranch_after_pass {collected : Collected} {project : String} {item : WorkItem}
    (apart : KeysApart collected.workItems) (stored : RowsStorable collected.workItems)
    (candidate : item ∈ collected.candidates project) (given : item.linkedPrUrl ≠ "") :
    ∃ enrichment selected first after,
      collected.enrich (.int item.connectionId) = .ok enrichment ∧
      byLinkedNumber.best? ⟨collected, project, item⟩ = some (byLinkedNumber.name, selected) ∧
      collected.IsFirst item.linkedPrNumber first ∧
      enrichment.collected.workItem? item.connectionId item.id = some after ∧
      (selected.branch ≠ "" →
        (after.linkedBranch = selected.branch ↔
          first.branch = selected.branch ∨
            first.branch = "" ∧ item.linkedBranch = selected.branch)) ∧
      (selected.branch ≠ "" →
        (∀ other ∈ collected.pullRequests, other.number = selected.number →
          other.createdAt.ticks ≤ selected.createdAt.ticks → other.branch = selected.branch) →
            after.linkedBranch = selected.branch) := by
  rcases Collected.mem_candidates_iff.mp candidate with ⟨mem, linked⟩
  rcases collected.enrich_of_fits (Collected.fitsColumn_of_stored stored mem) with
    ⟨enrichment, passed, enriched⟩
  rcases Collected.exists_selected linked with ⟨selected, best, selectedMem, numbered⟩
  rcases Collected.exists_isFirst selectedMem numbered with ⟨first, isFirst, branch⟩
  have found := Collected.workItem?_enriched apart mem
  have after : collected.branchAfter item =
      if first.branch = "" then item.linkedBranch else first.branch := by
    unfold Collected.branchAfter
    rw [if_pos (Collected.hasLink_of_isLinked linked given), branch]
    by_cases empty : first.branch = "" <;> simp [empty, Option.filter]
  have agrees : selected.branch ≠ "" → (collected.branchAfter item = selected.branch ↔
      first.branch = selected.branch ∨
        first.branch = "" ∧ item.linkedBranch = selected.branch) := by
    intro hasBranch
    rw [after]
    by_cases empty : first.branch = ""
    · simp [empty, hasBranch.symm]
    · simp [empty]
  refine ⟨enrichment, selected, first, _, passed, best, isFirst, enriched ▸ found, agrees, ?_⟩
  intro hasBranch sameBranch
  have sameNumber : first.number = selected.number :=
    Option.some.inj (isFirst.numbered.trans numbered.symm)
  have noLater := isFirst.earliest selected selectedMem numbered
  exact (agrees hasBranch).mpr (.inl (sameBranch first isFirst.mem sameNumber noLater))

/-- A task that was linked to a pull request of its project. -/
def sharedTask : WorkItem := { linkedTask 1 "T" with linkedPrUrl := "link" }

def ownPullRequest : PullRequest :=
  ⟨"pull", "repository", 1, "change", "branch", ⟨60000000⟩, none, none⟩

/-- The task and its pull request, with an older pull request of the same number in a repository of
another project. -/
def sharedNumber : Collected :=
  { Collected.empty with
    workItems := [sharedTask]
    pullRequests := [ownPullRequest,
      ⟨"elsewhere", "foreign", 1, "another change", "elsewhere", ⟨0⟩, none, none⟩]
    projectScopes := [⟨"project", repositoryTable, "repository"⟩] }

theorem wellKeyed_sharedNumber : (⟨sharedNumber, []⟩ : Store).WellKeyed := by
  constructor
  case ledger => exact List.Pairwise.nil
  all_goals exact keysDistinct_eq_true_iff.mp (by decide)

theorem storable_sharedNumber : sharedNumber.Storable := by constructor <;> decide

theorem sharedTask_mem_candidates : sharedTask ∈ sharedNumber.candidates "project" := by
  rw [Collected.mem_candidates_iff]
  exact ⟨List.mem_cons_self, 1, rfl, by decide, ownPullRequest, List.mem_cons_self, rfl, by decide⟩

/-- The project finds its own pull request. -/
theorem best?_sharedTask : byLinkedNumber.best? ⟨sharedNumber, "project", sharedTask⟩ =
    some (byLinkedNumber.name, ownPullRequest) := by
  cbv

/-- A pass gives the task the branch of the other project's pull request. -/
theorem workItem?_enriched_sharedNumber :
    (sharedNumber.enriched 1).workItem? 1 "T" = some (sharedTask.withBranch "elsewhere") := by
  cbv

/-- A pass and the lookup do not always agree. -/
theorem not_forall_branchesAgree :
    ¬∀ store : Store, store.WellKeyed → store.collected.Storable →
      ∀ project, store.collected.BranchesAgree project := by
  intro agree
  have agreeHere := agree _ wellKeyed_sharedNumber storable_sharedNumber "project"
  rcases agreeHere sharedTask sharedTask_mem_candidates (by decide) with
    ⟨enrichment, selected, after, passed, best, found, agrees⟩
  rcases sharedNumber.enrich_of_fits (by decide : fitsColumn 1 = true) with
    ⟨enrichment', passed', enriched⟩
  have sameEnrichment : enrichment' = enrichment := Except.ok.inj (passed'.symm.trans passed)
  rw [best?_sharedTask] at best
  rw [← sameEnrichment, enriched] at found
  rcases Option.some.inj best with ⟨rfl⟩
  rcases Option.some.inj (workItem?_enriched_sharedNumber.symm.trans found) with rfl
  exact absurd (agrees (by decide)) (by decide)

/-- After the pass the task does not have the branch of its own pull request, because the other one
is the first of that number and has another branch. -/
theorem linkedBranch_after_pass_of_sharedNumber :
    ∃ enrichment after, sharedNumber.enrich (.int 1) = .ok enrichment ∧
      enrichment.collected.workItem? 1 "T" = some after ∧ after.linkedBranch ≠ "branch" := by
  rcases linkedBranch_after_pass wellKeyed_sharedNumber.workItems storable_sharedNumber.workItems
    sharedTask_mem_candidates (by decide) with
    ⟨enrichment, selected, first, after, passed, best, isFirst, found, agrees, _⟩
  rw [best?_sharedTask] at best
  rcases Option.some.inj best with ⟨rfl⟩
  refine ⟨enrichment, after, passed, found, ?_⟩
  intro same
  have isOlder : first ≠ ownPullRequest := by
    rintro rfl
    exact absurd (isFirst.earliest _ (List.mem_cons_of_mem _ List.mem_cons_self) rfl) (by decide)
  rcases (agrees (by decide)).mp same with sameBranch | ⟨empty, hadBranch⟩
  · have mem := isFirst.mem
    simp only [sharedNumber, List.mem_cons, List.not_mem_nil, or_false] at mem
    rcases mem with rfl | rfl
    · exact isOlder rfl
    · exact absurd sameBranch (by decide)
  · exact absurd hadBranch (by decide)

end DeliveryCycle
