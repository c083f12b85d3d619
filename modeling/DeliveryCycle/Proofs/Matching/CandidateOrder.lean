import DeliveryCycle.Proofs.Matching.Visibility

/-!
# Each candidate once, in order

The join of work items, pull requests and mappings gives one row for each pull request with the
linked number and each mapping of its repository. The candidates hold the work item of these rows
once, in the order of connections and then of identifiers. The order is strict, because the primary
key of work items consists of the same two columns; so the candidates are the only list of these
work items in that order, by `candidates_once_in_order`.
-/

namespace DeliveryCycle

/-- A work item comes before another one if its connection does, or its identifier within one
connection. -/
def WorkItem.IsBefore (left right : WorkItem) : Prop :=
  left.connectionId < right.connectionId ∨
    left.connectionId = right.connectionId ∧ left.id < right.id

theorem WorkItem.isBefore_asymm {left right : WorkItem} (before : left.IsBefore right) :
    ¬right.IsBefore left := by
  rintro (earlier | ⟨same, less⟩)
  · rcases before with later | ⟨equal, _⟩ <;> omega
  · rcases before with later | ⟨_, greater⟩
    · omega
    · exact String.lt_asymm less greater

theorem WorkItem.isBefore_of_precedes {left right : WorkItem} (differ : left.key ≠ right.key)
    (before : precedes (·.connectionId) (·.id) left right = true) : left.IsBefore right := by
  rcases precedes_iff.mp before with earlier | ⟨same, notAfter⟩
  · exact .inl earlier
  · have differId : left.id ≠ right.id := fun sameId => differ (Prod.ext same sameId)
    exact .inr ⟨same, Std.lt_of_le_of_ne notAfter differId⟩

theorem WorkItem.nodup_of_pairwise_isBefore {items : List WorkItem}
    (ordered : items.Pairwise WorkItem.IsBefore) : items.Nodup := by
  apply ordered.imp
  rintro item _ before rfl
  exact WorkItem.isBefore_asymm before before

/-- Work items have one list in strict order only. -/
theorem WorkItem.eq_of_pairwise_isBefore {first second : List WorkItem}
    (firstOrdered : first.Pairwise WorkItem.IsBefore)
    (secondOrdered : second.Pairwise WorkItem.IsBefore)
    (sameItems : ∀ item, item ∈ first ↔ item ∈ second) : first = second := by
  have perm : first.Perm second :=
    (List.perm_ext_iff_of_nodup (WorkItem.nodup_of_pairwise_isBefore firstOrdered)
      (WorkItem.nodup_of_pairwise_isBefore secondOrdered)).mpr sameItems
  apply perm.eq_of_pairwise _ firstOrdered secondOrdered
  intro left right _ _ before after
  exact absurd after (WorkItem.isBefore_asymm before)

namespace Collected

variable {collected : Collected} {project : String} {item : WorkItem}

/-- A stored work item whose linked number is positive and belongs to a pull request in a
repository that is mapped to the project. -/
structure IsCandidate (collected : Collected) (project : String) (item : WorkItem) : Prop where
  stored : item ∈ collected.workItems
  linked : ∃ number, item.linkedPrNumber = some number ∧ 0 < number ∧
    ∃ pullRequest ∈ collected.pullRequests, pullRequest.number = number ∧
      ∃ scope ∈ collected.projectScopes, scope.project = project ∧ scope.table = "repos" ∧
        scope.rowId = pullRequest.repositoryId

theorem mem_candidates_iff_isCandidate :
    item ∈ collected.candidates project ↔ collected.IsCandidate project item := by
  simp only [mem_candidates_iff, IsLinked, isOfProject_iff, repositoryTable]
  constructor
  · rintro ⟨stored, linked⟩
    exact ⟨stored, linked⟩
  · rintro ⟨stored, linked⟩
    exact ⟨stored, linked⟩

theorem pairwise_isBefore_candidates (apart : KeysApart collected.workItems) :
    (collected.candidates project).Pairwise WorkItem.IsBefore := by
  have differ : (collected.candidates project).Pairwise
      fun first second => first.key ≠ second.key :=
    List.pairwise_map.mp (nodup_candidates_key apart)
  exact differ.imp₂ (fun _ _ => WorkItem.isBefore_of_precedes) pairwise_candidates

end Collected

/-- The candidates of a project hold every work item that the join finds exactly once, hold no other
one and are in strict order; no other list of these work items is. -/
theorem candidates_once_in_order {collected : Collected} (apart : KeysApart collected.workItems)
    (project : String) :
    (∀ item, collected.IsCandidate project item →
      (collected.candidates project).count item = 1) ∧
    (∀ item ∈ collected.candidates project, collected.IsCandidate project item) ∧
    (collected.candidates project).Pairwise WorkItem.IsBefore ∧
    (∀ items : List WorkItem, (∀ item, item ∈ items ↔ collected.IsCandidate project item) →
      items.Pairwise WorkItem.IsBefore → items = collected.candidates project) := by
  have ordered : (collected.candidates project).Pairwise WorkItem.IsBefore :=
    Collected.pairwise_isBefore_candidates apart
  refine ⟨?once, ?noOther, ordered, ?unique⟩
  case once =>
    intro item found
    have mem := Collected.mem_candidates_iff_isCandidate.mpr found
    exact List.count_eq_one_of_mem (WorkItem.nodup_of_pairwise_isBefore ordered) mem
  case noOther =>
    intro item mem
    exact Collected.mem_candidates_iff_isCandidate.mp mem
  case unique =>
    intro items holds itemsOrdered
    apply WorkItem.eq_of_pairwise_isBefore itemsOrdered ordered
    intro item
    rw [holds, Collected.mem_candidates_iff_isCandidate]

def numberedTask (connectionId : Int) (id : String) (number : Option Int) : WorkItem :=
  ⟨connectionId, id, "", "", "", ⟨0⟩, "", number, ""⟩

def numberedPullRequest (id repositoryId : String) (number : Int) : PullRequest :=
  ⟨id, repositoryId, number, "", "", ⟨0⟩, none, none⟩

/-- Tasks of two connections with a number that several pull requests of the project have, besides
tasks without a number, with the number zero and with that of a pull request outside the project. -/
def sharedNumbers : Collected :=
  { Collected.empty with
    workItems := [numberedTask 2 "A" (some 1), numberedTask 1 "B" (some 1),
      numberedTask 1 "C" none, numberedTask 1 "D" (some 0), numberedTask 1 "E" (some 2),
      numberedTask 1 "A" (some 1)]
    pullRequests := [numberedPullRequest "first" "one" 1, numberedPullRequest "second" "one" 1,
      numberedPullRequest "third" "two" 1, numberedPullRequest "zero" "one" 0,
      numberedPullRequest "board" "three" 2]
    projectScopes := [⟨"project", "repos", "one"⟩, ⟨"project", "repos", "two"⟩,
      ⟨"project", "boards", "three"⟩, ⟨"another", "repos", "three"⟩] }

/-- The join finds a task three times, and the candidates hold it once. -/
theorem candidates_once_in_order_of_sharedNumbers :
    KeysApart sharedNumbers.workItems ∧
      sharedNumbers.candidateRows "project" (numberedTask 2 "A" (some 1)) =
        List.replicate 3 (numberedTask 2 "A" (some 1)) ∧
      (sharedNumbers.candidates "project").count (numberedTask 2 "A" (some 1)) = 1 := by
  have apart : KeysApart sharedNumbers.workItems := keysDistinct_eq_true_iff.mp (by decide)
  refine ⟨apart, by decide, (candidates_once_in_order apart "project").1 _ ?_⟩
  refine ⟨List.mem_cons_self, 1, rfl, by decide, ?_⟩
  exact ⟨_, List.mem_cons_self, rfl, _, List.mem_cons_self, rfl, rfl, rfl⟩

end DeliveryCycle
