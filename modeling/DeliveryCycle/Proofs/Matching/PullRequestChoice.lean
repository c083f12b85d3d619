import DeliveryCycle.Proofs.Matching.Visibility
import DeliveryCycle.Proofs.Text.Occurrence
import Mathlib

/-!
# Which pull request is found

Each strategy asks for pull requests of the project that meet a condition, and takes the oldest of
them: `GivesOldest` says so of one strategy, whatever it asks for. The strategies are tried in
order, so a pull request that mentions the task goes before one with the linked number, even before
an older one. What follows from the choice is said by `firstCommitAt_isFirst` and
`correlationWith_deployment_iff`: the commits are those of the pull request that was chosen, and its
merge commit is the only way to a deployment.
-/

namespace DeliveryCycle

/-- A pull request mentions the identifier of a work item in its title or its branch. -/
def PullRequest.MentionsTask (item : WorkItem) (pullRequest : PullRequest) : Prop :=
  item.id ≠ "" ∧
    (Text.OccursIn item.id pullRequest.title ∨ Text.OccursIn item.id pullRequest.branch)

/-- A pull request contains the identifier of a work item literally, up to the case of ASCII
letters. -/
def PullRequest.ContainsTask (item : WorkItem) (pullRequest : PullRequest) : Prop :=
  let lower (text : String) : List Char := text.toList.map Char.toLower
  item.id ≠ "" ∧
    (lower item.id <:+: lower pullRequest.title ∨ lower item.id <:+: lower pullRequest.branch)

/-- All texts that are compared to find out whether a task is mentioned are plain. -/
structure PullRequest.IsPlainFor (item : WorkItem) (pullRequest : PullRequest) : Prop where
  task : Text.IsPlain item.id
  title : Text.IsPlain pullRequest.title
  branch : Text.IsPlain pullRequest.branch

theorem PullRequest.mentionsTask_iff_containsTask {item : WorkItem} {pullRequest : PullRequest}
    (plain : pullRequest.IsPlainFor item) :
    pullRequest.MentionsTask item ↔ pullRequest.ContainsTask item := by
  unfold MentionsTask ContainsTask
  rw [Text.occursIn_iff_of_isPlain plain.task plain.title,
    Text.occursIn_iff_of_isPlain plain.task plain.branch]

/-- A pull request has the positive number that is linked to a work item. -/
def PullRequest.HasLinkedNumber (item : WorkItem) (pullRequest : PullRequest) : Prop :=
  item.linkedPrNumber = some pullRequest.number ∧ 0 < pullRequest.number

namespace Collected

/-- A pull request in a repository mapped to the project meets a condition. -/
structure Offers (collected : Collected) (project : String) (condition : PullRequest → Prop)
    (pullRequest : PullRequest) : Prop where
  mem : pullRequest ∈ collected.pullRequests
  mapped : ∃ scope ∈ collected.projectScopes, scope.project = project ∧ scope.table = "repos" ∧
    scope.rowId = pullRequest.repositoryId
  meets : condition pullRequest

/-- A pull request that meets a condition was created before all others that do, or has the smaller
identifier where the times are equal. -/
structure IsOldest (collected : Collected) (project : String) (condition : PullRequest → Prop)
    (pullRequest : PullRequest) : Prop where
  offered : collected.Offers project condition pullRequest
  older : ∀ other, collected.Offers project condition other → other ≠ pullRequest →
    pullRequest.createdAt.ticks < other.createdAt.ticks ∨
      pullRequest.createdAt.ticks = other.createdAt.ticks ∧ pullRequest.id < other.id

/-- The time of the first commit of a pull request; there is none if it has no commits. -/
def IsFirstCommit (collected : Collected) (pullRequestId : String) : Option Moment → Prop
  | none => ∀ commit ∈ collected.pullRequestCommits, commit.pullRequestId ≠ pullRequestId
  | some first =>
      (∃ commit ∈ collected.pullRequestCommits, commit.pullRequestId = pullRequestId ∧
        commit.authoredAt = first) ∧
      ∀ commit ∈ collected.pullRequestCommits, commit.pullRequestId = pullRequestId →
        first.ticks ≤ commit.authoredAt.ticks

end Collected

section Strategies

variable {subject : ItemSubject} {condition : PullRequest → Prop} {test : PullRequest → Bool}
variable {strategy : Strategy ItemSubject PullRequest} {pullRequest : PullRequest}

theorem mem_pullRequestsWhere_iff_offers (same : ∀ other, test other = true ↔ condition other) :
    pullRequest ∈ subject.pullRequestsWhere test ↔
      subject.collected.Offers subject.project condition pullRequest := by
  rw [mem_pullRequestsWhere_iff, Collected.isOfProject_iff, same]
  constructor
  · rintro ⟨mem, mapped, meets⟩
    exact ⟨mem, mapped, meets⟩
  · rintro ⟨mem, mapped, meets⟩
    exact ⟨mem, mapped, meets⟩

theorem isOldest_of_head? (apart : KeysApart subject.collected.pullRequests)
    (same : ∀ other, test other = true ↔ condition other)
    (head : (subject.pullRequestsWhere test).head? = some pullRequest) :
    subject.collected.IsOldest subject.project condition pullRequest := by
  have offered := (mem_pullRequestsWhere_iff_offers same).mp (List.mem_of_head? head)
  refine ⟨offered, fun other otherOffered differ => ?_⟩
  have otherMem := (mem_pullRequestsWhere_iff_offers same).mpr otherOffered
  have ordered : (subject.pullRequestsWhere test).Pairwise fun left right =>
      precedes (·.createdAt.ticks) (·.id) left right = true := by
    unfold ItemSubject.pullRequestsWhere
    rw [PullRequest.createdBefore_eq_precedes]
    exact pairwise_mergeSort_precedes _
  rcases List.head?_eq_some_iff.mp head with ⟨rest, listed⟩
  rw [listed] at ordered otherMem
  have later : other ∈ rest := by simpa [differ] using otherMem
  -- Of pull requests that were created at the same time the primary key decides.
  have otherId : pullRequest.id ≠ other.id := by
    intro sameId
    exact differ (apart.eq_of_keyCells_eq otherOffered.mem offered.mem
      (PullRequest.keyCells_eq_iff.mpr sameId.symm))
  rcases precedes_iff.mp (List.rel_of_pairwise_cons ordered later) with before | ⟨equal, notAfter⟩
  · left
    exact Int.ofNat_lt.mp before
  · right
    refine ⟨Int.ofNat_inj.mp equal, String.not_le.mp fun notBefore => ?_⟩
    exact otherId (String.le_antisymm notAfter notBefore)

/-- A strategy gives the oldest pull request that meets a condition, or none if none does. -/
inductive GivesOldest (strategy : Strategy ItemSubject PullRequest) (subject : ItemSubject)
    (condition : PullRequest → Prop) : Prop where
  | none (idle : strategy.best? subject = none)
      (nothing : ∀ other, ¬subject.collected.Offers subject.project condition other)
  | some (oldest : PullRequest) (best : strategy.best? subject = some (strategy.name, oldest))
      (isOldest : subject.collected.IsOldest subject.project condition oldest)

theorem givesOldest_of_idle (idle : strategy.rows? subject = none)
    (never : ∀ other, ¬condition other) : GivesOldest strategy subject condition := by
  apply GivesOldest.none
  · exact (strategy.best?_eq_none_iff subject).mpr (.inl idle)
  · exact fun other offered => never other offered.meets

theorem givesOldest_of_rows (apart : KeysApart subject.collected.pullRequests)
    (rows : strategy.rows? subject = some (subject.pullRequestsWhere test))
    (same : ∀ other, test other = true ↔ condition other) :
    GivesOldest strategy subject condition := by
  cases head : (subject.pullRequestsWhere test).head? with
  | none =>
      have empty := List.head?_eq_none_iff.mp head
      apply GivesOldest.none
      · exact (strategy.best?_eq_none_iff subject).mpr (.inr (rows.trans (congrArg some empty)))
      · intro other offered
        have mem := (mem_pullRequestsWhere_iff_offers same).mpr offered
        rw [empty] at mem
        contradiction
  | some oldest =>
      apply GivesOldest.some oldest
      · simp [Strategy.best?, rows, head]
      · exact isOldest_of_head? apart same head

theorem byTaskReference_givesOldest (apart : KeysApart subject.collected.pullRequests) :
    GivesOldest byTaskReference subject (PullRequest.MentionsTask subject.item) := by
  by_cases unnamed : subject.item.id = ""
  · apply givesOldest_of_idle
    · simp [byTaskReference, unnamed]
    · exact fun _ mentions => mentions.1 unnamed
  · have rows : byTaskReference.rows? subject =
        some (subject.pullRequestsWhere (·.mentions subject.item.id)) := by
      simp [byTaskReference, unnamed]
    apply givesOldest_of_rows apart rows
    intro other
    simp [PullRequest.mentions, PullRequest.MentionsTask, Text.contains_iff, unnamed]

theorem byLinkedNumber_givesOldest (apart : KeysApart subject.collected.pullRequests) :
    GivesOldest byLinkedNumber subject (PullRequest.HasLinkedNumber subject.item) := by
  unfold PullRequest.HasLinkedNumber
  cases linked : subject.item.linkedPrNumber with
  | none =>
      apply givesOldest_of_idle
      · simp [byLinkedNumber, linked]
      · simp
  | some number =>
      by_cases positive : 0 < number
      · have rows : byLinkedNumber.rows? subject =
            some (subject.pullRequestsWhere (·.number = number)) := by
          simp [byLinkedNumber, linked, positive]
        apply givesOldest_of_rows apart rows
        intro other
        simp only [decide_eq_true_eq, Option.some.injEq]
        constructor
        · rintro rfl
          exact ⟨rfl, positive⟩
        · exact fun has => has.1.symm
      · apply givesOldest_of_idle
        · simp [byLinkedNumber, linked, positive]
        · rintro pullRequest ⟨same, greater⟩
          exact positive (Option.some.inj same ▸ greater)

theorem matchPullRequest_eq_or (subject : ItemSubject) :
    matchPullRequest pullRequestStrategies subject =
      ((byTaskReference.best? subject).or (byLinkedNumber.best? subject)).map
        fun found => found.2.matched found.1 := by
  unfold matchPullRequest Strategy.firstMatch pullRequestStrategies
  rw [List.findSome?_cons, List.findSome?_cons]
  cases byTaskReference.best? subject <;> cases byLinkedNumber.best? subject <;> rfl

theorem matchPullRequest_cases (subject : ItemSubject)
    (apart : KeysApart subject.collected.pullRequests) :
    let mentioning := PullRequest.MentionsTask subject.item
    let numbered := PullRequest.HasLinkedNumber subject.item
    let found := matchPullRequest pullRequestStrategies subject
    (∃ oldest, subject.collected.IsOldest subject.project mentioning oldest ∧
        found = some (oldest.matched "pull_request_by_task_reference")) ∨
      (∀ other, ¬subject.collected.Offers subject.project mentioning other) ∧
        ((∃ oldest, subject.collected.IsOldest subject.project numbered oldest ∧
            found = some (oldest.matched "pull_request_by_linked_number")) ∨
          (∀ other, ¬subject.collected.Offers subject.project numbered other) ∧
            found = none) := by
  intro mentioning numbered found
  have tried : found = _ := matchPullRequest_eq_or subject
  cases byTaskReference_givesOldest apart with
  | some oldest best isOldest =>
      left
      exact ⟨oldest, isOldest, by rw [tried, best]; rfl⟩
  | none idle nothing =>
      rw [idle, Option.none_or] at tried
      right
      refine ⟨nothing, ?_⟩
      cases byLinkedNumber_givesOldest apart with
      | some oldest best isOldest =>
          left
          exact ⟨oldest, isOldest, by rw [tried, best]; rfl⟩
      | none idleToo nowhere =>
          right
          exact ⟨nowhere, by rw [tried, idleToo]; rfl⟩

end Strategies

namespace Collected

variable {collected : Collected} {project name : String} {item : WorkItem}
variable {pullRequest : PullRequest}

theorem firstCommitAt_isFirst (collected : Collected) (pullRequestId : String) :
    collected.IsFirstCommit pullRequestId (collected.firstCommitAt pullRequestId) := by
  have listed {ticks : Nat} : ticks ∈ (collected.pullRequestCommits.filter fun commit =>
      commit.pullRequestId = pullRequestId).map (·.authoredAt.ticks) ↔
        ∃ commit ∈ collected.pullRequestCommits, commit.pullRequestId = pullRequestId ∧
          commit.authoredAt.ticks = ticks := by
    simp [and_assoc]
  unfold firstCommitAt
  cases least : ((collected.pullRequestCommits.filter fun commit =>
      commit.pullRequestId = pullRequestId).map (·.authoredAt.ticks)).min? with
  | none =>
      intro commit mem same
      have commitListed := listed.mpr ⟨commit, mem, same, rfl⟩
      rw [List.min?_eq_none_iff.mp least] at commitListed
      contradiction
  | some ticks =>
      rcases List.min?_eq_some_iff.mp least with ⟨among, notAfter⟩
      rcases listed.mp among with ⟨commit, mem, same, rfl⟩
      refine ⟨⟨commit, mem, same, rfl⟩, fun other otherMem otherSame => ?_⟩
      exact notAfter _ (listed.mpr ⟨other, otherMem, otherSame, rfl⟩)

/-- What is derived from the pull request that was chosen: its first commit, and a deployment only
through its merge commit. -/
structure IsDerived (collected : Collected) (correlation : Correlation Moment) : Prop where
  firstCommit : collected.IsFirstCommit correlation.pullRequest.id correlation.firstCommitAt
  deployment : ∀ deployment, correlation.deployment = some deployment ↔
    ∃ commit, correlation.pullRequest.mergeCommit = some commit ∧ commit ≠ "" ∧
      matchDeployment deploymentStrategies collected (some commit) = some deployment

theorem isDerived_correlationWith :
    collected.IsDerived (collected.correlationWith item pullRequest name) where
  firstCommit := firstCommitAt_isFirst _ _
  deployment := by
    intro deployment
    unfold correlationWith PullRequest.matched
    dsimp only
    cases pullRequest.mergeCommit with
    | none => simp [matchDeployment]
    | some commit =>
        by_cases empty : commit = ""
        · simp [matchDeployment, empty]
        · simp [empty]

theorem isDerived_of_resolve {correlation : Correlation Moment}
    (resolved : (resolve .usual collected project item).correlation = some correlation) :
    collected.IsDerived correlation := by
  rw [resolve_correlation] at resolved
  rcases Option.map_eq_some_iff.mp resolved with ⟨⟨name, pullRequest⟩, _, rfl⟩
  exact isDerived_correlationWith

theorem resolve_pullRequest :
    (resolve .usual collected project item).correlation.map (·.pullRequest) =
      matchPullRequest pullRequestStrategies ⟨collected, project, item⟩ := by
  rw [resolve_correlation, Option.map_map]
  rfl

end Collected

/-- Which pull request a work item is resolved to, and what is derived from it. There is none
exactly if no pull request of the project mentions the task or has its linked number. The oldest one
that mentions the task is taken, and only if there is none the oldest one with the number. A plain
text is mentioned exactly where it is contained. -/
theorem oldest_pull_request_is_resolved {collected : Collected}
    (apart : KeysApart collected.pullRequests) (project : String) (item : WorkItem) :
    let mentioning := PullRequest.MentionsTask item
    let numbered := PullRequest.HasLinkedNumber item
    let found := matchPullRequest pullRequestStrategies ⟨collected, project, item⟩
    let resolved := (resolve .usual collected project item).correlation
    (found = none ↔ ∀ other, ¬collected.Offers project mentioning other ∧
      ¬collected.Offers project numbered other) ∧
    ((∃ other, collected.Offers project mentioning other) →
      ∃ oldest, collected.IsOldest project mentioning oldest ∧
        found = some (oldest.matched "pull_request_by_task_reference")) ∧
    ((∀ other, ¬collected.Offers project mentioning other) →
      (∃ other, collected.Offers project numbered other) →
        ∃ oldest, collected.IsOldest project numbered oldest ∧
          found = some (oldest.matched "pull_request_by_linked_number")) ∧
    (∀ other : PullRequest, other.IsPlainFor item →
      (other.MentionsTask item ↔ other.ContainsTask item)) ∧
    resolved.map (·.pullRequest) = found ∧
    ∀ correlation, resolved = some correlation → collected.IsDerived correlation := by
  intro mentioning numbered found resolved
  have contained (other : PullRequest) (plain : other.IsPlainFor item) :
      other.MentionsTask item ↔ other.ContainsTask item :=
    PullRequest.mentionsTask_iff_containsTask plain
  have derived (correlation : Correlation Moment) (isResolved : resolved = some correlation) :
      collected.IsDerived correlation := Collected.isDerived_of_resolve isResolved
  have same : resolved.map (·.pullRequest) = found := Collected.resolve_pullRequest
  rcases matchPullRequest_cases ⟨collected, project, item⟩ apart with
    ⟨oldest, isOldest, taken⟩ | ⟨nothing, ⟨oldest, isOldest, taken⟩ | ⟨nowhere, missed⟩⟩
  · refine ⟨?_, ?_, ?_, contained, same, derived⟩
    · constructor
      · intro missed
        exact absurd (missed.symm.trans taken) (by simp)
      · intro neither
        exact absurd isOldest.offered (neither oldest).1
    · exact fun _ => ⟨oldest, isOldest, taken⟩
    · exact fun nothing => absurd isOldest.offered (nothing oldest)
  · refine ⟨?_, ?_, ?_, contained, same, derived⟩
    · constructor
      · intro missed
        exact absurd (missed.symm.trans taken) (by simp)
      · intro neither
        exact absurd isOldest.offered (neither oldest).2
    · exact fun ⟨other, offered⟩ => absurd offered (nothing other)
    · exact fun _ _ => ⟨oldest, isOldest, taken⟩
  · refine ⟨?_, ?_, ?_, contained, same, derived⟩
    · constructor
      · exact fun _ other => ⟨nothing other, nowhere other⟩
      · exact fun _ => missed
    · exact fun ⟨other, offered⟩ => absurd offered (nothing other)
    · exact fun _ ⟨other, offered⟩ => absurd offered (nowhere other)

/-- A task of which only the identifier and the linked number matter. -/
def namedTask (id : String) (linkedPrNumber : Option Int) : WorkItem :=
  { (default : WorkItem) with id, linkedPrNumber }

/-- A pull request has the number of a task, and a later one mentions the task. -/
def rivalRows : Collected :=
  { Collected.empty with
    pullRequests := [⟨"numbered", "repository", 1, "change", "branch", ⟨0⟩, none, none⟩,
      ⟨"mentioning", "repository", 2, "fix t", "branch", ⟨60000000⟩, none, none⟩]
    projectScopes := [⟨"project", "repos", "repository"⟩] }

theorem mentioning_is_resolved_in_rivalRows :
    (resolve .usual rivalRows "project" (namedTask "T" (some 1))).correlation.map
        (·.pullRequest.matchedBy) = some "pull_request_by_task_reference" := by
  have apart : KeysApart rivalRows.pullRequests := keysDistinct_eq_true_iff.mp (by decide)
  have offered : rivalRows.Offers "project" (PullRequest.MentionsTask (namedTask "T" (some 1)))
      ⟨"mentioning", "repository", 2, "fix t", "branch", ⟨60000000⟩, none, none⟩ := by
    refine ⟨by decide, ⟨⟨"project", "repos", "repository"⟩, by decide, rfl, rfl, rfl⟩, ?_⟩
    exact ⟨by decide, .inl (by decide)⟩
  rcases oldest_pull_request_is_resolved apart "project" (namedTask "T" (some 1)) with
    ⟨_, mentioned, _, _, same, _⟩
  rcases mentioned ⟨_, offered⟩ with ⟨oldest, _, found⟩
  rw [found] at same
  rcases Option.map_eq_some_iff.mp same with ⟨correlation, resolved, matched⟩
  rw [resolved, Option.map_some, matched]
  rfl

/-- The title has the character that stands for codes that are no characters. -/
def replacedRows : Collected :=
  { Collected.empty with
    pullRequests := [⟨"pull", "repository", 1, "x\ufffdy", "", ⟨0⟩, none, none⟩]
    projectScopes := [⟨"project", "repos", "repository"⟩] }

/-- To be found is not to be contained literally: a task whose identifier is such a code is found in
the title, and it is not in the title. -/
theorem not_forall_found_iff_contained :
    ¬∀ (collected : Collected) (project : String) (item : WorkItem),
      KeysApart collected.pullRequests →
        (matchPullRequest pullRequestStrategies ⟨collected, project, item⟩ = none ↔
          ∀ other, ¬collected.Offers project (PullRequest.ContainsTask item) other ∧
            ¬collected.Offers project (PullRequest.HasLinkedNumber item) other) := by
  intro exactly
  have apart : KeysApart replacedRows.pullRequests := keysDistinct_eq_true_iff.mp (by decide)
  have found : (matchPullRequest pullRequestStrategies
      ⟨replacedRows, "project", namedTask "\ufffe" none⟩).isSome := by cbv
  have missed := (exactly replacedRows "project" (namedTask "\ufffe" none) apart).mpr (by
    intro other
    constructor
    · rintro ⟨mem, _, _, title | branch⟩
      · rw [List.mem_singleton.mp mem] at title
        exact absurd title (by decide)
      · rw [List.mem_singleton.mp mem] at branch
        exact absurd branch (by decide)
    · rintro ⟨_, _, linked, _⟩
      exact absurd linked (by simp [namedTask]))
  rw [missed] at found
  contradiction

end DeliveryCycle
