import DeliveryCycle.Proofs.Run.Noninterference

/-!
# Runs of two projects

A work item is a candidate of every project that has a pull request with the number linked to it,
and such a number counts within its repository only. So a task can be a candidate of two projects
that have no repository in common. Each of them resolves it to a pull request of its own, but the
key of a record names no project: the run that comes last replaces the record of the other one.

This is the only way in which the order of two clean runs matters. `recordsOf_perform_perform` is
the view of the ledger after both of them, and `runs_in_both_orders` compares the two orders.
-/

namespace DeliveryCycle

namespace Collected

variable {collected : Collected} {first second : String} {item : WorkItem}

/-- Two projects have no repository in common. -/
def ShareNoRepository (collected : Collected) (first second : String) : Prop :=
  ∀ repository ∈ collected.repositories first, repository ∉ collected.repositories second

instance : Decidable (collected.ShareNoRepository first second) :=
  inferInstanceAs (Decidable (∀ repository ∈ collected.repositories first, _))

/-- The candidates that two projects have in common. -/
def sharedCandidates (collected : Collected) (first second : String) : List WorkItem :=
  (collected.candidates first).filter fun item => item ∈ collected.candidates second

theorem mem_sharedCandidates_iff :
    item ∈ collected.sharedCandidates first second ↔
      item ∈ collected.candidates first ∧ item ∈ collected.candidates second := by
  simp [sharedCandidates]

theorem mem_repositories_iff {project repository : String} :
    repository ∈ collected.repositories project ↔
      ∃ scope ∈ collected.projectScopes, scope.project = project ∧
        scope.table = repositoryTable ∧ scope.rowId = repository := by
  simp [repositories, and_assoc]

/-- Projects without a common repository resolve a work item to different pull requests. -/
theorem pullRequest_id_ne_of_apart (keyed : KeysApart collected.pullRequests)
    (apart : collected.ShareNoRepository first second) {ofFirst ofSecond : Correlation Moment}
    (firstMem : item ∈ collected.candidates first)
    (secondMem : item ∈ collected.candidates second)
    (firstResolved : (resolve .usual collected first item).correlation = some ofFirst)
    (secondResolved : (resolve .usual collected second item).correlation = some ofSecond) :
    ofFirst.pullRequest.id ≠ ofSecond.pullRequest.id := by
  rcases resolvesWithin_of_mem_candidates firstMem with
    ⟨found, foundResolved, pullRequest, mem, _, _, matched, inFirst⟩
  rcases resolvesWithin_of_mem_candidates secondMem with
    ⟨other, otherResolved, otherRequest, otherMem, _, _, otherMatched, inSecond⟩
  rw [Option.some.inj (firstResolved.symm.trans foundResolved), matched,
    Option.some.inj (secondResolved.symm.trans otherResolved), otherMatched]
  intro sameId
  have same : pullRequest = otherRequest :=
    List.inj_on_of_nodup_map (nodup_pullRequests_id keyed) mem otherMem sameId
  apply apart _ (mem_repositories_iff.mpr inFirst)
  rw [same]
  exact mem_repositories_iff.mpr inSecond

end Collected

namespace Store

variable {store : Store} {project first second : String} {item : WorkItem} {task : Int × String}

theorem cleanRecord?_of_mem_candidates (wellKeyed : store.WellKeyed)
    (mem : item ∈ store.collected.candidates project) {correlation : Correlation Moment}
    (resolved : (resolve .usual store.collected project item).correlation = some correlation) :
    store.cleanRecord? project item.key = some correlation.momentRecord := by
  apply (RunPlan.recordLeft?_eq_some_iff (wellKeyed.nodup_candidates_key project)).mpr
  refine ⟨item, mem, rfl, ?_⟩
  have found : (RunPlan.clean store.collected project).correlation? item = some correlation :=
    resolved
  simp [RunPlan.freshRecord?_clean, found]

theorem exists_candidate_of_cleanRecord? (wellKeyed : store.WellKeyed)
    {record : CycleRecord Moment} (written : store.cleanRecord? project task = some record) :
    ∃ item ∈ store.collected.candidates project, item.key = task := by
  rcases (RunPlan.recordLeft?_eq_some_iff (wellKeyed.nodup_candidates_key project)).mp written with
    ⟨item, mem, same, _⟩
  exact ⟨item, mem, same⟩

/-- For a task that is no common candidate, at most one of two projects has a record. -/
theorem cleanRecord?_eq_none_of_unshared (wellKeyed : store.WellKeyed)
    (unshared : task ∉ (store.collected.sharedCandidates first second).map (·.key)) :
    store.cleanRecord? first task = none ∨ store.cleanRecord? second task = none := by
  cases ofFirst : store.cleanRecord? first task with
  | none => exact .inl rfl
  | some firstRecord =>
      cases ofSecond : store.cleanRecord? second task with
      | none => exact .inr rfl
      | some secondRecord =>
          rcases exists_candidate_of_cleanRecord? wellKeyed ofFirst with ⟨item, mem, same⟩
          rcases exists_candidate_of_cleanRecord? wellKeyed ofSecond with
            ⟨other, otherMem, otherSame⟩
          have equal : item = other :=
            List.inj_on_of_nodup_map (Collected.nodup_workItems_key wellKeyed.workItems)
              (Collected.mem_workItems_of_mem_candidates mem)
              (Collected.mem_workItems_of_mem_candidates otherMem) (same.trans otherSame.symm)
          apply absurd _ unshared
          apply List.mem_map.mpr
          exact ⟨item, Collected.mem_sharedCandidates_iff.mpr ⟨mem, equal ▸ otherMem⟩, same⟩

end Store

namespace Attempt

variable {store : Store} {first second project : String} {firstRun secondRun attempt : Attempt}

/-- The records of a task after clean runs of two projects: the last project that has a record for
the task decides. -/
theorem recordsOf_perform_perform (wellKeyed : store.WellKeyed)
    (firstClean : firstRun.IsClean first) (secondClean : secondRun.IsClean second)
    (task : Int × String) :
    (secondRun.perform (firstRun.perform store).store).store.ledger.recordsOf task =
      match store.cleanRecord? second task, store.cleanRecord? first task with
      | some record, _ => [record]
      | none, some record => [record]
      | none, none => store.ledger.recordsOf task := by
  have between : (store.withLedger (store.cleanLedger first)).WellKeyed :=
    wellKeyed.withLedger (RunPlan.wellKeyed_foldl_write wellKeyed.ledger)
  have sameRows : (store.withLedger (store.cleanLedger first)).cleanRecord? second task =
      store.cleanRecord? second task := Store.cleanRecord?_congr rfl second task
  rw [(firstClean.perform store).2, (secondClean.perform _).2]
  show Ledger.recordsOf (Store.cleanLedger _ second) task = _
  rw [Store.recordsOf_cleanLedger between, sameRows]
  cases store.cleanRecord? second task with
  | some record => rfl
  | none =>
      refine (Store.recordsOf_cleanLedger wellKeyed first task).trans ?_
      cases store.cleanRecord? first task <;> rfl

/-- Clean runs of two projects leave the same rows in both orders only if the projects derive the
same record for a task of both. -/
theorem cleanRecord_eq_of_perm (wellKeyed : store.WellKeyed) (firstClean : firstRun.IsClean first)
    (secondClean : secondRun.IsClean second) {task : Int × String}
    {ofFirst ofSecond : CycleRecord Moment}
    (firstRecord : store.cleanRecord? first task = some ofFirst)
    (secondRecord : store.cleanRecord? second task = some ofSecond)
    (perm : (secondRun.perform (firstRun.perform store).store).store.ledger.Perm
      (firstRun.perform (secondRun.perform store).store).store.ledger) : ofFirst = ofSecond := by
  have sameView : (Ledger.recordsOf _ task).Perm (Ledger.recordsOf _ task) := perm.filter _
  rw [recordsOf_perform_perform wellKeyed firstClean secondClean,
    recordsOf_perform_perform wellKeyed secondClean firstClean, firstRecord,
    secondRecord] at sameView
  exact (List.singleton_perm_singleton.mp sameView).symm

theorem IsClean.perform_collected (clean : attempt.IsClean project) (store : Store) :
    (attempt.perform store).store.collected = store.collected := by
  rw [(clean.perform store).2]
  rfl

/-- Clean runs over the same collected rows return the same summary. -/
theorem IsClean.perform_result (clean : attempt.IsClean project) {current : Store}
    (sameRows : current.collected = store.collected) :
    ∃ summary, (attempt.perform store).result = .ok summary ∧
      (attempt.perform current).result = .ok summary := by
  refine ⟨store.cleanSummary project, (clean.perform store).1, ?_⟩
  rw [(clean.perform current).1, Store.cleanSummary_congr sameRows]

end Attempt

section BothOrders

variable {store : Store} {first second : String} {firstRun secondRun : Attempt}

/-- Clean runs of two projects without a common repository return the same summaries in both orders,
and they leave the same records but for the tasks that are candidates of both projects. Such a task
is resolved to two pull requests, one for each project, and it has the record of the project that
ran last. So the two orders leave the same rows exactly if the two projects derive the same record
for each of their common candidates, and always if they have none in common. -/
theorem runs_in_both_orders (wellKeyed : store.WellKeyed)
    (apart : store.collected.ShareNoRepository first second)
    (firstClean : firstRun.IsClean first) (secondClean : secondRun.IsClean second) :
    let shared := store.collected.sharedCandidates first second
    let forth := secondRun.perform (firstRun.perform store).store
    let back := firstRun.perform (secondRun.perform store).store
    (∃ summary, (firstRun.perform store).result = .ok summary ∧ back.result = .ok summary) ∧
      (∃ summary, (secondRun.perform store).result = .ok summary ∧ forth.result = .ok summary) ∧
      forth.store.collected = store.collected ∧ back.store.collected = store.collected ∧
      (∀ task, task ∉ shared.map (·.key) →
        forth.store.ledger.recordsOf task = back.store.ledger.recordsOf task) ∧
      (∀ item ∈ shared, ∃ ofFirst ofSecond : Correlation Moment,
        (resolve .usual store.collected first item).correlation = some ofFirst ∧
          (resolve .usual store.collected second item).correlation = some ofSecond ∧
          ofFirst.pullRequest.id ≠ ofSecond.pullRequest.id ∧
          forth.store.ledger.recordsOf item.key = [ofSecond.momentRecord] ∧
          back.store.ledger.recordsOf item.key = [ofFirst.momentRecord]) ∧
      (forth.store.ledger.Perm back.store.ledger ↔
        ∀ item ∈ shared,
          store.cleanRecord? first item.key = store.cleanRecord? second item.key) := by
  intro shared forth back
  have forthView := Attempt.recordsOf_perform_perform wellKeyed firstClean secondClean
  have backView := Attempt.recordsOf_perform_perform wellKeyed secondClean firstClean
  have unshared (task : Int × String) (notShared : task ∉ shared.map (·.key)) :
      forth.store.ledger.recordsOf task = back.store.ledger.recordsOf task := by
    rw [forthView, backView]
    rcases Store.cleanRecord?_eq_none_of_unshared wellKeyed notShared with none | none
    · rw [none]
      cases store.cleanRecord? second task <;> rfl
    · rw [none]
      cases store.cleanRecord? first task <;> rfl
  -- Every common candidate has two records, one of each project.
  have contested (item : WorkItem) (mem : item ∈ shared) : ∃ ofFirst ofSecond,
      (resolve .usual store.collected first item).correlation = some ofFirst ∧
        (resolve .usual store.collected second item).correlation = some ofSecond ∧
        store.cleanRecord? first item.key = some ofFirst.momentRecord ∧
        store.cleanRecord? second item.key = some ofSecond.momentRecord ∧
        ofFirst.pullRequest.id ≠ ofSecond.pullRequest.id := by
    rcases Collected.mem_sharedCandidates_iff.mp mem with ⟨firstMem, secondMem⟩
    rcases Collected.resolvesWithin_of_mem_candidates firstMem with ⟨ofFirst, firstResolved, _⟩
    rcases Collected.resolvesWithin_of_mem_candidates secondMem with ⟨ofSecond, secondResolved, _⟩
    exact ⟨ofFirst, ofSecond, firstResolved, secondResolved,
      Store.cleanRecord?_of_mem_candidates wellKeyed firstMem firstResolved,
      Store.cleanRecord?_of_mem_candidates wellKeyed secondMem secondResolved,
      Collected.pullRequest_id_ne_of_apart wellKeyed.pullRequests apart firstMem secondMem
        firstResolved secondResolved⟩
  have afterFirst := firstClean.perform_collected store
  have afterSecond := secondClean.perform_collected store
  refine ⟨firstClean.perform_result afterSecond, secondClean.perform_result afterFirst,
    (secondClean.perform_collected _).trans afterFirst,
    (firstClean.perform_collected _).trans afterSecond, unshared, ?_, ?_, ?_⟩
  · intro item mem
    rcases contested item mem with
      ⟨ofFirst, ofSecond, firstResolved, secondResolved, firstRecord, secondRecord, differ⟩
    refine ⟨ofFirst, ofSecond, firstResolved, secondResolved, differ, ?_, ?_⟩
    · rw [forthView, firstRecord, secondRecord]
    · rw [backView, firstRecord, secondRecord]
  · intro perm item mem
    rcases contested item mem with ⟨ofFirst, ofSecond, _, _, firstRecord, secondRecord, _⟩
    rw [firstRecord, secondRecord, Attempt.cleanRecord_eq_of_perm wellKeyed firstClean secondClean
      firstRecord secondRecord perm]
  · intro agree
    apply Ledger.perm_of_recordsOf_eq
    intro task
    by_cases isShared : task ∈ shared.map (·.key)
    · rcases List.mem_map.mp isShared with ⟨item, mem, rfl⟩
      rw [forthView, backView, agree item mem]
    · exact unshared task isShared

end BothOrders

/-- A clean attempt to run the other project of the crowded store. -/
def otherCleanAttempt : Attempt :=
  ⟨[], { twinCleanAttempt.request with projectName := "other" }, false⟩

theorem shareNoRepository_crowdedStore :
    crowdedStore.collected.ShareNoRepository "project" "other" := by
  decide

theorem sharedCandidates_crowdedStore :
    crowdedStore.collected.sharedCandidates "project" "other" =
      [linkedTask 1 "T", linkedTask 2 "T"] := by
  cbv

theorem isClean_otherCleanAttempt : otherCleanAttempt.IsClean "other" :=
  ⟨by decide, ⟨1, rfl, by decide, by decide⟩, rfl, rfl⟩

/-- Both tasks of the crowded store have the record of the project that ran last. -/
theorem crowdedStore_in_both_orders :
    let forth := otherCleanAttempt.perform (twinCleanAttempt.perform crowdedStore).store
    let back := twinCleanAttempt.perform (otherCleanAttempt.perform crowdedStore).store
    ∀ connectionId ∈ [1, 2], ∃ ofProject ofOther : Correlation Moment,
      ofProject.pullRequest.id ≠ ofOther.pullRequest.id ∧
        forth.store.ledger.recordsOf (connectionId, "T") = [ofOther.momentRecord] ∧
        back.store.ledger.recordsOf (connectionId, "T") = [ofProject.momentRecord] := by
  rcases runs_in_both_orders wellKeyed_crowdedStore shareNoRepository_crowdedStore
    isClean_twinCleanAttempt isClean_otherCleanAttempt with ⟨_, _, _, _, _, contested, _⟩
  intro forth back connectionId mem
  have isShared : linkedTask connectionId "T" ∈
      crowdedStore.collected.sharedCandidates "project" "other" := by
    rw [sharedCandidates_crowdedStore]
    exact List.mem_map_of_mem (f := fun connectionId => linkedTask connectionId "T") mem
  rcases contested (linkedTask connectionId "T") isShared with
    ⟨ofProject, ofOther, _, _, differ, forthRecord, backRecord⟩
  exact ⟨ofProject, ofOther, differ, forthRecord, backRecord⟩

/-- Clean runs of projects without a common repository do not always commute. -/
theorem not_forall_runs_commute :
    ¬∀ (store : Store) (first second : String) (firstRun secondRun : Attempt),
      store.WellKeyed → store.collected.ShareNoRepository first second →
      firstRun.IsClean first → secondRun.IsClean second →
      (secondRun.perform (firstRun.perform store).store).store.ledger.Perm
        (firstRun.perform (secondRun.perform store).store).store.ledger := by
  intro commute
  have isShared : linkedTask 1 "T" ∈ crowdedStore.collected.sharedCandidates "project" "other" := by
    rw [sharedCandidates_crowdedStore]
    exact List.mem_cons_self
  rcases Collected.mem_sharedCandidates_iff.mp isShared with ⟨inProject, inOther⟩
  have projectCreated : (resolve .usual crowdedStore.collected "project"
      (linkedTask 1 "T")).correlation.map (·.pullRequest.createdAt) = some ⟨60000000⟩ := by cbv
  have otherCreated : (resolve .usual crowdedStore.collected "other"
      (linkedTask 1 "T")).correlation.map (·.pullRequest.createdAt) = some ⟨0⟩ := by cbv
  rcases Option.map_eq_some_iff.mp projectCreated with ⟨ofProject, projectResolved, late⟩
  rcases Option.map_eq_some_iff.mp otherCreated with ⟨ofOther, otherResolved, early⟩
  have same : ofProject.momentRecord = ofOther.momentRecord :=
    Attempt.cleanRecord_eq_of_perm wellKeyed_crowdedStore isClean_twinCleanAttempt
      isClean_otherCleanAttempt
      (Store.cleanRecord?_of_mem_candidates wellKeyed_crowdedStore inProject projectResolved)
      (Store.cleanRecord?_of_mem_candidates wellKeyed_crowdedStore inOther otherResolved)
      (commute crowdedStore "project" "other" twinCleanAttempt otherCleanAttempt
        wellKeyed_crowdedStore shareNoRepository_crowdedStore isClean_twinCleanAttempt
        isClean_otherCleanAttempt)
  have sameCreated : ofProject.pullRequest.createdAt = ofOther.pullRequest.createdAt :=
    Option.some.inj (congrArg CycleRecord.pullRequestCreatedAt same)
  rw [late, early] at sameCreated
  exact absurd sameCreated (by decide)

end DeliveryCycle
