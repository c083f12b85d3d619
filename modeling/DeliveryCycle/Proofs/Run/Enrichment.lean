import DeliveryCycle.Proofs.Run.Pipeline

/-!
# One pass over a connection

`Takes` says which branch a work item takes over in a pass, from the tables and without a look at
how a pass works. `pass_changes_exactly` says that a pass changes the work items that take over a
branch and nothing else, that it counts them, and that a second pass changes nothing.

A pass goes by the pull request of a number that was created first. If several were created at the
same time, any one of them may be meant; a `ChoosesFirst` is a choice for each number.
-/

namespace DeliveryCycle

namespace Collected

variable {collected : Collected} {connectionId : Int} {item : WorkItem} {branch : String}

/-- A choice of a first pull request for each number that a pull request has. -/
structure ChoosesFirst (collected : Collected) (first : Int → Option PullRequest) : Prop where
  isFirst : ∀ number pullRequest, first number = some pullRequest →
    collected.IsFirst (some number) pullRequest
  isSome : ∀ pullRequest ∈ collected.pullRequests, (first pullRequest.number).isSome

theorem choosesFirst_firstOfNumber? : collected.ChoosesFirst collected.firstOfNumber? where
  isFirst _ _ := isFirst_of_firstOfNumber?
  isSome _ := firstOfNumber?_isSome

/-- A work item takes over a branch in a pass over a connection. It belongs to the connection, its
comments linked a pull request by address and by positive number, and the first pull request with
this number has the branch, which is not empty and not the one that the item has. -/
structure Takes (first : Int → Option PullRequest) (connectionId : Int) (item : WorkItem)
    (branch : String) : Prop where
  own : item.connectionId = connectionId
  linked : item.linkedPrUrl ≠ ""
  offered : ∃ number pullRequest, item.linkedPrNumber = some number ∧ 0 < number ∧
    first number = some pullRequest ∧ pullRequest.branch = branch
  named : branch ≠ ""
  other : branch ≠ item.linkedBranch

/-- What a pass makes of a work item. -/
inductive Passed (first : Int → Option PullRequest) (connectionId : Int) :
    WorkItem → WorkItem → Prop
  | taken {item : WorkItem} {branch : String} (takes : Takes first connectionId item branch) :
      Passed first connectionId item { item with linkedBranch := branch }
  | kept {item : WorkItem} (idle : ∀ branch, ¬Takes first connectionId item branch) :
      Passed first connectionId item item

theorem hasLink_iff : item.hasLink = true ↔
    item.linkedPrUrl ≠ "" ∧ ∃ number, item.linkedPrNumber = some number ∧ 0 < number := by
  unfold WorkItem.hasLink
  cases item.linkedPrNumber <;> simp

theorem takes_iff : Takes collected.firstOfNumber? connectionId item branch ↔
    item.connectionId = connectionId ∧ item.hasLink = true ∧
      collected.linkedBranch? item = some branch ∧ branch ≠ item.linkedBranch := by
  constructor
  · rintro ⟨own, linked, ⟨number, pullRequest, numbered, positive, found, same⟩, named, other⟩
    refine ⟨own, hasLink_iff.mpr ⟨linked, number, numbered, positive⟩, ?_, other⟩
    rw [linkedBranch?_eq numbered, found, Option.map_some, same]
    simpa using named
  · rintro ⟨own, hasLink, found, other⟩
    rcases hasLink_iff.mp hasLink with ⟨linked, number, numbered, positive⟩
    rw [linkedBranch?_eq numbered, Option.filter_eq_some_iff, Option.map_eq_some_iff] at found
    rcases found with ⟨⟨pullRequest, first, same⟩, named⟩
    exact ⟨own, linked, ⟨number, pullRequest, numbered, positive, first, same⟩,
      of_decide_eq_true named, other⟩

theorem enrichedItem_of_takes (takes : Takes collected.firstOfNumber? connectionId item branch) :
    collected.enrichedItem connectionId item = item.withBranch branch := by
  rcases takes_iff.mp takes with ⟨own, hasLink, found, _⟩
  rw [enrichedItem_eq, if_pos own, branchAfter, if_pos hasLink, found, Option.getD_some]

theorem enrichedItem_of_idle
    (idle : ∀ branch, ¬Takes collected.firstOfNumber? connectionId item branch) :
    collected.enrichedItem connectionId item = item := by
  rw [enrichedItem_eq]
  split
  · rename_i own
    have same : collected.branchAfter item = item.linkedBranch := by
      unfold branchAfter
      split
      · rename_i hasLink
        cases found : collected.linkedBranch? item with
        | none => rfl
        | some branch =>
            by_contra other
            exact idle branch (takes_iff.mpr ⟨own, hasLink, found, other⟩)
      · rfl
    rw [same, WorkItem.withBranch_linkedBranch]
  · rfl

theorem passed_enrichedItem (item : WorkItem) :
    Passed collected.firstOfNumber? connectionId item
      (collected.enrichedItem connectionId item) := by
  by_cases takes : ∃ branch, Takes collected.firstOfNumber? connectionId item branch
  · rcases takes with ⟨branch, takes⟩
    rw [enrichedItem_of_takes takes]
    exact .taken takes
  · have idle : ∀ branch, ¬Takes collected.firstOfNumber? connectionId item branch :=
      not_exists.mp takes
    rw [enrichedItem_of_idle idle]
    exact .kept idle

/-- A pass looks up branches in rows that no pass changes. -/
theorem enrichedItem_enriched : (collected.enriched connectionId).enrichedItem connectionId =
    collected.enrichedItem connectionId := rfl

theorem enrichedItem_enrichedItem :
    collected.enrichedItem connectionId (collected.enrichedItem connectionId item) =
      collected.enrichedItem connectionId item := by
  have once : collected.enrichedItem connectionId item = _ := enrichedItem_eq
  rw [once]
  split
  · rename_i own
    have ownAfter : (item.withBranch (collected.branchAfter item)).connectionId = connectionId :=
      own
    rw [enrichedItem_eq, if_pos ownAfter, branchAfter_withBranch, WorkItem.withBranch_withBranch]
  · rename_i other
    rw [enrichedItem_eq, if_neg other]

theorem enriched_enriched :
    (collected.enriched connectionId).enriched connectionId = collected.enriched connectionId := by
  have sameItems : (collected.enriched connectionId).workItems.map
      (collected.enrichedItem connectionId) = (collected.enriched connectionId).workItems := by
    simp only [enriched, List.map_map]
    apply List.map_congr_left
    intro item _
    exact enrichedItem_enrichedItem
  rw [enriched, enrichedItem_enriched, sameItems]

theorem enrichedCount_enriched :
    (collected.enriched connectionId).enrichedCount connectionId = 0 := by
  unfold enrichedCount
  rw [enrichedItem_enriched, List.length_eq_zero_iff, List.filter_eq_nil_iff]
  intro after mem
  rcases List.mem_map.mp mem with ⟨item, _, rfl⟩
  simp [enrichedItem_enrichedItem]

end Collected

/-- The number of rows of a table that are not what they were. -/
def changedRows (before after : List WorkItem) : Nat :=
  (before.zip after).countP fun rows => rows.1 ≠ rows.2

theorem countP_zip_map (rows : List WorkItem) (change : WorkItem → WorkItem)
    (condition : WorkItem × WorkItem → Bool) :
    (rows.zip (rows.map change)).countP condition =
      rows.countP fun row => condition (row, change row) := by
  induction rows with
  | nil => rfl
  | cons row rest ih => rw [List.map_cons, List.zip_cons_cons, List.countP_cons, ih,
      List.countP_cons]

theorem changedRows_map (rows : List WorkItem) (change : WorkItem → WorkItem) :
    changedRows rows (rows.map change) = (rows.filter fun row => change row ≠ row).length := by
  rw [changedRows, countP_zip_map, List.countP_eq_length_filter]
  simp only [ne_comm]

/-- A pass over a connection changes exactly the work items that take over a branch, each in its
branch only, and no other row of any table; it returns how many they are. A second pass changes
nothing and returns zero.

The identifier of a connection is an integer that the column of a work item can hold, and this is
what `fitsColumn` says of it. An integer that does not fit is the identifier of no connection: no
work item that can be stored has it, and a pass over it is refused and changes nothing. -/
theorem pass_changes_exactly (store : Store) (connectionId : Int) :
    (fitsColumn connectionId = true →
      ∃ first enrichment second,
        store.collected.ChoosesFirst first ∧
        store.collected.enrich (.int connectionId) = .ok enrichment ∧
        List.Forall₂ (Collected.Passed first connectionId)
          store.collected.workItems enrichment.collected.workItems ∧
        { enrichment.collected with workItems := store.collected.workItems } = store.collected ∧
        enrichment.count =
          changedRows store.collected.workItems enrichment.collected.workItems ∧
        (Job.enrichWorkItems store (.int connectionId)).result = .ok enrichment.count ∧
        (Job.enrichWorkItems store (.int connectionId)).store =
          ⟨enrichment.collected, store.ledger⟩ ∧
        enrichment.collected.enrich (.int connectionId) = .ok second ∧
        second.collected = enrichment.collected ∧ second.count = 0) ∧
    (fitsColumn connectionId = false →
      store.collected.enrich (.int connectionId) = .error .integerTooLarge ∧
      (Job.enrichWorkItems store (.int connectionId)).store = store ∧
      (RowsStorable store.collected.workItems →
        ∀ item ∈ store.collected.workItems, item.connectionId ≠ connectionId)) := by
  constructor
  · intro fits
    rcases store.collected.enrich_of_fits fits with ⟨enrichment, passed, enriched⟩
    rcases enrichment.collected.enrich_of_fits fits with ⟨second, again, unchanged⟩
    rcases Job.enrichWorkItems_of_enrich passed with ⟨result, left⟩
    have count := Collected.count_of_enrich fits passed
    have secondCount := Collected.count_of_enrich fits again
    refine ⟨store.collected.firstOfNumber?, enrichment, second,
      Collected.choosesFirst_firstOfNumber?, passed, ?_, ?_, ?_, result, left, again, ?_, ?_⟩
    · rw [enriched]
      apply List.forall₂_map_right_iff.mpr
      apply List.forall₂_same.mpr
      intro item _
      exact Collected.passed_enrichedItem item
    · rw [enriched]
      rfl
    · rw [count, enriched]
      exact (changedRows_map _ _).symm
    · rw [unchanged, enriched, Collected.enriched_enriched]
    · rw [secondCount, enriched, Collected.enrichedCount_enriched]
  · intro unfit
    refine ⟨Collected.enrich_of_unfit unfit, (Job.enrichWorkItems_of_unfit unfit).2, ?_⟩
    rintro stored item mem rfl
    exact absurd (Collected.fitsColumn_of_stored stored mem) (by simp [unfit])

/-- Three tasks that were linked to pull requests. The first pull request with the second number has
no branch, and the third task belongs to another connection. -/
def linkedTasks : Collected :=
  { sharedNumber with
    workItems := [sharedTask,
      { linkedTask 1 "U" with linkedPrUrl := "link", linkedPrNumber := some 2 },
      { linkedTask 2 "T" with linkedPrUrl := "link" }]
    pullRequests := sharedNumber.pullRequests ++
      [⟨"branchless", "repository", 2, "change", "", ⟨0⟩, none, none⟩,
        ⟨"later", "repository", 2, "change", "later", ⟨1⟩, none, none⟩] }

theorem workItems_enriched_linkedTasks : (linkedTasks.enriched 1).workItems =
    sharedTask.withBranch "elsewhere" :: linkedTasks.workItems.drop 1 := by
  cbv

/-- A pass over the first connection changes the first task only. -/
theorem pass_changes_exactly_of_linkedTasks :
    ∃ enrichment second, linkedTasks.enrich (.int 1) = .ok enrichment ∧
      enrichment.collected.workItems =
        sharedTask.withBranch "elsewhere" :: linkedTasks.workItems.drop 1 ∧
      enrichment.count = 1 ∧
      enrichment.collected.enrich (.int 1) = .ok second ∧ second.count = 0 := by
  rcases (pass_changes_exactly ⟨linkedTasks, []⟩ 1).1 (by decide) with
    ⟨_, enrichment, second, _, passed, _, _, count, _, _, again, _, secondCount⟩
  rcases linkedTasks.enrich_of_fits (by decide : fitsColumn 1 = true) with
    ⟨same, samePassed, enriched⟩
  rcases Except.ok.inj (samePassed.symm.trans passed) with rfl
  have rows : same.collected.workItems =
      sharedTask.withBranch "elsewhere" :: linkedTasks.workItems.drop 1 :=
    (congrArg Collected.workItems enriched).trans workItems_enriched_linkedTasks
  refine ⟨same, second, passed, rows, ?_, again, secondCount⟩
  rw [count, rows]
  decide

end DeliveryCycle
