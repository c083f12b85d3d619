import DeliveryCycle.Proofs.Matching.Agreement
import DeliveryCycle.Proofs.Store.RowOrder

/-!
# What a project sees

Candidates and their pull requests are found through the repositories that are mapped to a project.
So only some of the collected rows matter for it: the mapping of its repositories, the pull requests
that lie in them, and the commits of these pull requests. `Collected.AgreeFor` relates collected
rows that differ in nothing else. Rows so related have the same candidates in the same order, and
every work item is resolved in the same way, by `AgreeFor.candidates_eq` and `AgreeFor.resolve_eq`.
-/

namespace DeliveryCycle

theorem PullRequest.createdBefore_eq_precedes :
    PullRequest.createdBefore = precedes (·.createdAt.ticks) (·.id) := by
  funext left right
  unfold PullRequest.createdBefore precedes
  simp only [Int.ofNat_lt, Int.ofNat_inj]

theorem Collected.candidateBefore_eq_precedes :
    Collected.candidateBefore = precedes (·.connectionId) (·.id) := rfl

theorem min?_eq_of_perm {first second : List Nat} (perm : first.Perm second) :
    first.min? = second.min? := by
  apply Option.ext
  intro least
  simp only [List.min?_eq_some_iff, perm.mem_iff]

namespace Collected

variable {left right : Collected} {project : String}

/-- Candidates are in the order of their keys. -/
theorem pairwise_candidates : (left.candidates project).Pairwise
    fun first second => precedes (·.connectionId) (·.id) first second = true := by
  unfold candidates
  rw [candidateBefore_eq_precedes]
  exact pairwise_mergeSort_precedes _

/-- The rows that map repositories to a project. -/
def repositoryScopes (collected : Collected) (project : String) : List ProjectScope :=
  collected.projectScopes.filter fun scope =>
    scope.project = project && scope.table = repositoryTable

/-- The pull requests in the repositories of a project. -/
def pullRequestsOf (collected : Collected) (project : String) : List PullRequest :=
  collected.pullRequests.filter (collected.isOfProject project)

/-- The commits of the pull requests of a project. -/
def commitsOf (collected : Collected) (project : String) : List PullRequestCommit :=
  collected.pullRequestCommits.filter fun commit =>
    (collected.pullRequestsOf project).any fun pullRequest =>
      pullRequest.id = commit.pullRequestId

/-- Collected rows that differ only in pull requests outside the repositories of a project, in
commits of such pull requests, and in mappings of other projects or of other tables. -/
structure AgreeFor (project : String) (left right : Collected) : Prop where
  workItems : left.workItems = right.workItems
  pullRequests : (left.pullRequestsOf project).Perm (right.pullRequestsOf project)
  commits : (left.commitsOf project).Perm (right.commitsOf project)
  deployments : left.deployments = right.deployments
  deploymentCommits : left.deploymentCommits = right.deploymentCommits
  rangeCommits : left.rangeCommits = right.rangeCommits
  scopes : (left.repositoryScopes project).Perm (right.repositoryScopes project)

theorem isLinked_iff {item : WorkItem} :
    left.IsLinked project item ↔
      ∃ number, item.linkedPrNumber = some number ∧ 0 < number ∧
        ∃ pullRequest ∈ left.pullRequestsOf project, pullRequest.number = number := by
  have among (number : Int) :
      (∃ pullRequest ∈ left.pullRequests, pullRequest.number = number ∧
          left.isOfProject project pullRequest = true) ↔
        ∃ pullRequest ∈ left.pullRequestsOf project, pullRequest.number = number := by
    simp only [pullRequestsOf, List.mem_filter]
    grind
  simp only [IsLinked, among]

theorem AgreeFor.candidates_eq (agree : AgreeFor project left right)
    (keyed : KeysApart left.workItems) : left.candidates project = right.candidates project := by
  have sameLinked (item : WorkItem) :
      left.IsLinked project item ↔ right.IsLinked project item := by
    simp only [isLinked_iff, agree.pullRequests.mem_iff]
  have sameRows : ((left.workItems.flatMap (left.candidateRows project)).eraseDups).Perm
      (right.workItems.flatMap (right.candidateRows project)).eraseDups := by
    apply (List.perm_ext_iff_of_nodup (nodup_eraseDups _) (nodup_eraseDups _)).mpr
    intro item
    simp only [List.mem_eraseDups, List.mem_flatMap, mem_candidateRows_iff, agree.workItems,
      sameLinked]
  -- The joins may find the work items in different orders; sorting them by their key settles that.
  unfold candidates
  rw [candidateBefore_eq_precedes]
  apply mergeSort_precedes_eq_of_perm sameRows
  intro first firstMem second secondMem sameConnection sameId
  have inItems {item : WorkItem}
      (mem : item ∈ (left.workItems.flatMap (left.candidateRows project)).eraseDups) :
      item ∈ left.workItems :=
    mem_workItems_of_mem_candidates (List.mem_mergeSort.mpr mem)
  exact List.inj_on_of_nodup_map (nodup_workItems_key keyed) (inItems firstMem)
    (inItems secondMem) (Prod.ext sameConnection sameId)

theorem AgreeFor.pullRequestsWhere_eq (agree : AgreeFor project left right)
    (keyed : KeysApart left.pullRequests) (item : WorkItem) (condition : PullRequest → Bool) :
    ItemSubject.pullRequestsWhere ⟨left, project, item⟩ condition =
      ItemSubject.pullRequestsWhere ⟨right, project, item⟩ condition := by
  have narrowed (collected : Collected) :
      (collected.pullRequests.filter fun pullRequest =>
        collected.isOfProject project pullRequest && condition pullRequest) =
        (collected.pullRequestsOf project).filter condition := by
    rw [pullRequestsOf, List.filter_filter]
    apply List.filter_congr
    intro pullRequest _
    exact Bool.and_comm _ _
  -- Pull requests that were created at the same time are told apart by the primary key.
  unfold ItemSubject.pullRequestsWhere
  dsimp only
  rw [narrowed, narrowed, PullRequest.createdBefore_eq_precedes]
  apply mergeSort_precedes_eq_of_perm (agree.pullRequests.filter condition)
  intro first firstMem second secondMem _ sameId
  exact List.inj_on_of_nodup_map (nodup_pullRequests_id keyed)
    (List.mem_of_mem_filter (List.mem_of_mem_filter firstMem))
    (List.mem_of_mem_filter (List.mem_of_mem_filter secondMem)) sameId

theorem AgreeFor.firstMatch_eq (agree : AgreeFor project left right)
    (keyed : KeysApart left.pullRequests) (item : WorkItem) :
    Strategy.firstMatch pullRequestStrategies ⟨left, project, item⟩ =
      Strategy.firstMatch pullRequestStrategies ⟨right, project, item⟩ := by
  simp only [Strategy.firstMatch, pullRequestStrategies, List.findSome?_cons, List.findSome?_nil,
    Strategy.best?, byTaskReference, byLinkedNumber, agree.pullRequestsWhere_eq keyed]

theorem firstCommitAt_eq_of_mem {pullRequest : PullRequest}
    (mem : pullRequest ∈ left.pullRequestsOf project) :
    left.firstCommitAt pullRequest.id =
      (((left.commitsOf project).filter fun commit =>
        commit.pullRequestId = pullRequest.id).map (·.authoredAt.ticks)).min?.map Moment.mk := by
  have narrowed : ((left.commitsOf project).filter fun commit =>
      commit.pullRequestId = pullRequest.id) =
        left.pullRequestCommits.filter fun commit => commit.pullRequestId = pullRequest.id := by
    rw [commitsOf, List.filter_filter]
    apply List.filter_congr
    intro commit _
    cases same : decide (commit.pullRequestId = pullRequest.id) with
    | false => rfl
    | true =>
        simp only [Bool.true_and, List.any_eq_true, decide_eq_true_eq] at same ⊢
        exact ⟨pullRequest, mem, same.symm⟩
  rw [narrowed]
  rfl

theorem AgreeFor.firstCommitAt_eq (agree : AgreeFor project left right) {pullRequest : PullRequest}
    (mem : pullRequest ∈ left.pullRequestsOf project) :
    left.firstCommitAt pullRequest.id = right.firstCommitAt pullRequest.id := by
  rw [firstCommitAt_eq_of_mem mem, firstCommitAt_eq_of_mem (agree.pullRequests.mem_iff.mp mem),
    min?_eq_of_perm ((agree.commits.filter _).map _)]

theorem AgreeFor.matchDeployment_eq (agree : AgreeFor project left right)
    (mergeCommit : Option String) :
    matchDeployment deploymentStrategies left mergeCommit =
      matchDeployment deploymentStrategies right mergeCommit := by
  have sameFinished (deploymentId : String) :
      left.finished deploymentId = right.finished deploymentId := by
    rw [finished, finished, agree.deployments]
  have sameRange (shipped : DeploymentCommit) (commit : String) :
      left.rangeHolds shipped commit = right.rangeHolds shipped commit := by
    have samePrevious : left.previousCommit shipped = right.previousCommit shipped := by
      rw [previousCommit, previousCommit, agree.deploymentCommits]
    rw [rangeHolds, rangeHolds, samePrevious, agree.rangeCommits]
  have sameShipping (commit : String) (environment : Option String) :
      CommitSubject.shipping ⟨left, commit⟩ environment =
        CommitSubject.shipping ⟨right, commit⟩ environment := by
    unfold CommitSubject.shipping
    dsimp only
    rw [agree.deploymentCommits]
    simp only [sameFinished, sameRange]
  simp only [matchDeployment, Strategy.firstMatch, deploymentStrategies, List.findSome?_cons,
    List.findSome?_nil, Strategy.best?, inProduction, inAnyEnvironment, sameShipping]

/-- A project resolves a work item by what it sees, with the same result and the same log. -/
theorem AgreeFor.resolve_eq (agree : AgreeFor project left right)
    (keyed : KeysApart left.pullRequests) (item : WorkItem) :
    resolve .usual left project item = resolve .usual right project item := by
  have sameMatch := agree.firstMatch_eq keyed item
  unfold resolve matchPullRequest Strategies.usual
  dsimp only
  rw [← sameMatch]
  cases found : Strategy.firstMatch pullRequestStrategies ⟨left, project, item⟩ with
  | none => rfl
  | some named =>
      rcases named with ⟨name, pullRequest⟩
      have mem : pullRequest ∈ left.pullRequestsOf project :=
        List.mem_filter.mpr (mem_of_firstMatch found)
      simp only [Option.map_some, agree.matchDeployment_eq, agree.firstCommitAt_eq mem]

end Collected

end DeliveryCycle
