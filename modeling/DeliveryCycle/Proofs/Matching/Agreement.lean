import DeliveryCycle.Matching.Resolution
import DeliveryCycle.Proofs.Matching.Candidates

/-!
# Candidates and their pull requests

Candidates are found by a join, and the pull request of a candidate by strategies that ask on their
own. Both look at the same pull requests: `mem_candidates_iff` says which work items the join finds,
and `mem_of_firstMatch` which pull requests the strategies can find. From the two follows
`resolvesWithin_of_mem_candidates`: every candidate of a project has a pull request, and it lies in
a repository of the project.
-/

namespace DeliveryCycle

namespace Strategy

variable {Subject Row : Type} {strategies : List (Strategy Subject Row)} {subject : Subject}

/-- What a lookup finds is the first row of the strategy that it names. -/
theorem exists_of_firstMatch {name : String} {row : Row}
    (found : firstMatch strategies subject = some (name, row)) :
    ∃ strategy ∈ strategies, strategy.name = name ∧
      ∃ rest, strategy.rows? subject = some (row :: rest) := by
  rcases List.exists_of_findSome?_eq_some found with ⟨strategy, mem, best⟩
  rcases Option.bind_eq_some_iff.mp best with ⟨rows, applies, first⟩
  rcases Option.map_eq_some_iff.mp first with ⟨row', head, named⟩
  rcases List.head?_eq_some_iff.mp head with ⟨rest, rfl⟩
  simp only [Prod.mk.injEq] at named
  exact ⟨strategy, mem, named.1, rest, named.2 ▸ applies⟩

/-- A lookup finds something as soon as one of its strategies does. -/
theorem firstMatch_isSome {strategy : Strategy Subject Row} {rows : List Row}
    (mem : strategy ∈ strategies) (applies : strategy.rows? subject = some rows)
    (nonempty : rows ≠ []) : (firstMatch strategies subject).isSome := by
  rcases List.exists_cons_of_ne_nil nonempty with ⟨row, rest, rfl⟩
  apply List.findSome?_isSome_iff.mpr
  refine ⟨strategy, mem, ?_⟩
  simp [best?, applies]

end Strategy

namespace Collected

variable {collected : Collected} {project : String} {item : WorkItem} {pullRequest : PullRequest}

theorem isOfProject_iff :
    collected.isOfProject project pullRequest = true ↔
      ∃ scope ∈ collected.projectScopes, scope.project = project ∧
        scope.table = repositoryTable ∧ scope.rowId = pullRequest.repositoryId := by
  simp [isOfProject, repositories, and_assoc]

/-- Whether the number linked to a work item is the one of a pull request of the project. -/
def IsLinked (collected : Collected) (project : String) (item : WorkItem) : Prop :=
  ∃ number, item.linkedPrNumber = some number ∧ 0 < number ∧
    ∃ pullRequest ∈ collected.pullRequests, pullRequest.number = number ∧
      collected.isOfProject project pullRequest = true

theorem mem_candidateRows_iff {row : WorkItem} :
    row ∈ collected.candidateRows project item ↔
      row = item ∧ collected.IsLinked project item := by
  unfold candidateRows IsLinked
  cases linked : item.linkedPrNumber with
  | none => simp
  | some number =>
      by_cases positive : 0 < number
      · simp only [positive, if_true, List.mem_flatMap]
        constructor
        · rintro ⟨pullRequest, mem, rowMem⟩
          split at rowMem
          · rename_i same
            rcases List.mem_map.mp rowMem with ⟨repository, mapped, rfl⟩
            rcases List.mem_filter.mp mapped with ⟨listed, sameRepository⟩
            refine ⟨rfl, number, rfl, positive, pullRequest, mem, same, ?_⟩
            simpa [isOfProject, of_decide_eq_true sameRepository] using listed
          · contradiction
        · rintro ⟨rfl, other, sameNumber, _, pullRequest, mem, same, ofProject⟩
          refine ⟨pullRequest, mem, ?_⟩
          have same := same.trans (Option.some.inj sameNumber).symm
          have mapped : pullRequest.repositoryId ∈ collected.repositories project := by
            simpa [isOfProject] using ofProject
          simpa [same] using mapped
      · simp only [positive, if_false, List.not_mem_nil, false_iff]
        rintro ⟨_, other, sameNumber, otherPositive, _⟩
        exact positive (Option.some.inj sameNumber ▸ otherPositive)

/-- The candidates of a project are the work items linked to a pull request of the project. -/
theorem mem_candidates_iff :
    item ∈ collected.candidates project ↔
      item ∈ collected.workItems ∧ collected.IsLinked project item := by
  simp only [candidates, List.mem_mergeSort, List.mem_eraseDups, List.mem_flatMap,
    mem_candidateRows_iff]
  constructor
  · rintro ⟨found, mem, rfl, linked⟩
    exact ⟨mem, linked⟩
  · rintro ⟨mem, linked⟩
    exact ⟨item, mem, rfl, linked⟩

end Collected

section Lookup

variable {subject : ItemSubject} {pullRequest : PullRequest} {name : String}

theorem mem_pullRequestsWhere_iff {condition : PullRequest → Bool} :
    pullRequest ∈ subject.pullRequestsWhere condition ↔
      pullRequest ∈ subject.collected.pullRequests ∧
        subject.collected.isOfProject subject.project pullRequest = true ∧
          condition pullRequest = true := by
  simp [ItemSubject.pullRequestsWhere]

/-- Whatever strategy finds a pull request, it finds one of the project. -/
theorem mem_of_firstMatch
    (found : Strategy.firstMatch pullRequestStrategies subject = some (name, pullRequest)) :
    pullRequest ∈ subject.collected.pullRequests ∧
      subject.collected.isOfProject subject.project pullRequest = true := by
  rcases Strategy.exists_of_firstMatch found with ⟨strategy, mem, _, rest, applies⟩
  have ofRows {condition : PullRequest → Bool}
      (rows : subject.pullRequestsWhere condition = pullRequest :: rest) :
      pullRequest ∈ subject.collected.pullRequests ∧
        subject.collected.isOfProject subject.project pullRequest = true := by
    have first : pullRequest ∈ subject.pullRequestsWhere condition := by simp [rows]
    rcases mem_pullRequestsWhere_iff.mp first with ⟨collected, ofProject, _⟩
    exact ⟨collected, ofProject⟩
  simp only [pullRequestStrategies, List.mem_cons, List.not_mem_nil, or_false] at mem
  rcases mem with rfl | rfl
  · simp only [byTaskReference] at applies
    split at applies
    · contradiction
    · exact ofRows (Option.some.inj applies)
  · simp only [byLinkedNumber] at applies
    split at applies
    · split at applies
      · exact ofRows (Option.some.inj applies)
      · contradiction
    · contradiction

/-- A pull request with the number linked to a work item is enough for the lookup to succeed. -/
theorem firstMatch_isSome_of_isLinked
    (linked : subject.collected.IsLinked subject.project subject.item) :
    (Strategy.firstMatch pullRequestStrategies subject).isSome := by
  rcases linked with ⟨number, same, positive, pullRequest, mem, numbered, ofProject⟩
  have found : pullRequest ∈ subject.pullRequestsWhere (·.number = number) :=
    mem_pullRequestsWhere_iff.mpr ⟨mem, ofProject, by simpa using numbered⟩
  have applies : byLinkedNumber.rows? subject =
      some (subject.pullRequestsWhere (·.number = number)) := by
    simp [byLinkedNumber, same, positive]
  apply Strategy.firstMatch_isSome _ applies (List.ne_nil_of_mem found)
  simp [pullRequestStrategies]

end Lookup

/-- A pull request as it is matched by a strategy. -/
def PullRequest.matched (pullRequest : PullRequest) (name : String) :
    MatchedPullRequest Moment where
  id := pullRequest.id
  number := pullRequest.number
  createdAt := pullRequest.createdAt
  mergedAt := pullRequest.mergedAt
  mergeCommit := pullRequest.mergeCommit
  matchedBy := name

namespace Collected

variable {collected : Collected} {project name : String} {item : WorkItem}
variable {pullRequest : PullRequest} {correlation : Correlation Moment}

/-- The correlation of a work item for which a strategy finds a pull request. -/
def correlationWith (collected : Collected) (item : WorkItem) (pullRequest : PullRequest)
    (name : String) : Correlation Moment where
  taskId := item.id
  connectionId := item.connectionId
  taskCreatedAt := item.createdAt
  pullRequest := pullRequest.matched name
  firstCommitAt := collected.firstCommitAt pullRequest.id
  deployment := matchDeployment deploymentStrategies collected pullRequest.mergeCommit

/-- To resolve a work item is to look up its pull request; all else follows from that. -/
theorem resolve_correlation (collected : Collected) (project : String) (item : WorkItem) :
    (resolve .usual collected project item).correlation =
      (Strategy.firstMatch pullRequestStrategies ⟨collected, project, item⟩).map
        fun found => collected.correlationWith item found.2 found.1 := by
  unfold resolve matchPullRequest Strategies.usual
  cases Strategy.firstMatch pullRequestStrategies ⟨collected, project, item⟩ <;> rfl

/-- A work item has a correlation, and its pull request lies in a repository of the project. -/
def ResolvesWithin (collected : Collected) (project : String) (item : WorkItem) : Prop :=
  ∃ correlation, (resolve .usual collected project item).correlation = some correlation ∧
    ∃ pullRequest ∈ collected.pullRequests, ∃ strategy ∈ pullRequestStrategies,
      correlation.pullRequest = pullRequest.matched strategy.name ∧
        ∃ scope ∈ collected.projectScopes, scope.project = project ∧
          scope.table = repositoryTable ∧ scope.rowId = pullRequest.repositoryId

theorem resolvesWithin_of_mem_candidates (mem : item ∈ collected.candidates project) :
    collected.ResolvesWithin project item := by
  have linked := (mem_candidates_iff.mp mem).2
  have isSome : (Strategy.firstMatch pullRequestStrategies ⟨collected, project, item⟩).isSome :=
    firstMatch_isSome_of_isLinked linked
  rcases Option.isSome_iff_exists.mp isSome with ⟨⟨name, pullRequest⟩, found⟩
  rcases mem_of_firstMatch found with ⟨inCollected, ofProject⟩
  rcases Strategy.exists_of_firstMatch found with ⟨strategy, among, rfl, _⟩
  refine ⟨collected.correlationWith item pullRequest strategy.name, ?_, pullRequest, inCollected,
    strategy, among, rfl, isOfProject_iff.mp ofProject⟩
  rw [resolve_correlation, found]
  rfl

end Collected

end DeliveryCycle
