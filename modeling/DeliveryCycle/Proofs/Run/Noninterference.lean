import DeliveryCycle.Proofs.Matching.Visibility
import DeliveryCycle.Proofs.Run.Convergence
import DeliveryCycle.Proofs.Run.Sight

/-!
# What a run depends on

Two runs of a plan over collected rows that give it the same answers are the same, whatever faults
and signals they meet. Rows that a project does not see change none of these answers; therefore no
attempt to run a project depends on them.
-/

namespace DeliveryCycle

namespace RunPlan

variable {plan : RunPlan} {collected : Collected} {environment : Environment}
variable {batchSize : Option Int} {ledger : Ledger}

/-- Other collected rows give a plan the same answers. -/
structure SeesSame (plan : RunPlan) (collected : Collected) : Prop where
  candidates : plan.collected.candidates plan.project = collected.candidates plan.project
  resolution : ∀ item, resolve .usual plan.collected plan.project item =
    resolve .usual collected plan.project item

theorem SeesSame.seesAs (same : plan.SeesSame collected) : plan.SeesAs collected id where
  candidates := by rw [List.map_id, same.candidates]
  resolution item := (same.resolution item).symm
  key _ := rfl

theorem SeesSame.run_eq (same : plan.SeesSame collected) :
    (plan.withRows collected).run environment batchSize ledger =
      plan.run environment batchSize ledger :=
  same.seesAs.run_eq

end RunPlan

namespace Attempt

variable {attempt : Attempt} {left right : Store} {project : String}

/-- An attempt on a store whose ledger is the same ends in the same way if its plan gets the same
answers. -/
theorem perform_eq (isFor : attempt.IsFor project) (sameLedger : left.ledger = right.ledger)
    (sees : (attempt.request.plan left ⟨project⟩).SeesSame right.collected) :
    attempt.perform right =
      { attempt.perform left with
        store := right.withLedger (attempt.perform left).store.ledger } := by
  -- A run that failed leaves each store as it was.
  have unchanged : right.withLedger left.ledger = right := by
    rw [sameLedger]
    rfl
  cases accepted : RunOptions.ofName attempt.request.projectName with
  | error issue =>
      unfold perform
      split <;> simp [calculate, calculateAndCommit, accepted, CommittedRun.failed, unchanged]
  | ok options =>
      have about : options = ⟨project⟩ := by
        rw [← isFor options accepted]
      have sameRun : (attempt.request.plan right options).run attempt.environment
          attempt.request.batchSize right.ledger =
            (attempt.request.plan left options).run attempt.environment
              attempt.request.batchSize left.ledger := by
        rw [about, ← sameLedger]
        exact sees.run_eq
      unfold perform
      split
      · simp only [calculateAndCommit, accepted, commitRun, sameRun]
        split
        · simp [CommittedRun.failed, unchanged]
        · split <;> rfl
      · simp only [calculate, accepted, sameRun]
        split
        · simp [CommittedRun.failed, unchanged]
        · rfl

end Attempt

/-- Rows that a project does not see make no difference to its runs. In two stores with the same
records whose collected rows agree for the project, it has the same candidates in the same order,
each of them is resolved in the same way, and every attempt to run the project, whatever goes wrong
and whenever it is told to stop, ends with the same summary or error, with the same reports and the
same log, and leaves the same records. -/
theorem unseen_rows_do_not_interfere {attempt : Attempt} {left right : Store} {project : String}
    (wellKeyed : left.WellKeyed) (isFor : attempt.IsFor project)
    (agree : Collected.AgreeFor project left.collected right.collected)
    (sameLedger : left.ledger = right.ledger) :
    left.collected.candidates project = right.collected.candidates project ∧
      (∀ item, resolve .usual left.collected project item =
        resolve .usual right.collected project item) ∧
      (attempt.perform left).result = (attempt.perform right).result ∧
      (attempt.perform left).reports = (attempt.perform right).reports ∧
      (attempt.perform left).log = (attempt.perform right).log ∧
      (attempt.perform left).store.ledger = (attempt.perform right).store.ledger := by
  have sameCandidates := agree.candidates_eq wellKeyed.workItems
  have sameResolution := agree.resolve_eq wellKeyed.pullRequests
  have sees : (attempt.request.plan left ⟨project⟩).SeesSame right.collected :=
    ⟨sameCandidates, sameResolution⟩
  have sameEnd := Attempt.perform_eq isFor sameLedger sees
  refine ⟨sameCandidates, sameResolution, ?_, ?_, ?_, ?_⟩
  all_goals rw [sameEnd]
  rfl

/-- The store with a task under two connections, where another project has an older pull request
with the same number, which mentions the task. -/
def crowdedStore : Store where
  collected := { twinStore.collected with
    pullRequests := ⟨"elsewhere", "foreign", 1, "change T", "T", ⟨0⟩, none, none⟩ ::
      twinStore.collected.pullRequests
    pullRequestCommits := [⟨"elsewhere", "commit", ⟨0⟩⟩]
    projectScopes := [⟨"project", "boards", "foreign"⟩, ⟨"project", repositoryTable, "repository"⟩,
      ⟨"other", repositoryTable, "foreign"⟩] }
  ledger := twinStore.ledger

theorem wellKeyed_crowdedStore : crowdedStore.WellKeyed := by
  constructor
  case ledger => exact wellKeyed_twinStore.ledger
  all_goals exact keysDistinct_eq_true_iff.mp (by decide)

/-- Neither the pull request nor its commit nor the further mappings change anything. -/
theorem crowdedStore_does_not_interfere :
    crowdedStore.collected.candidates "project" = [linkedTask 1 "T", linkedTask 2 "T"] ∧
      (twinCleanAttempt.perform twinStore).result =
        (twinCleanAttempt.perform crowdedStore).result := by
  have agree : Collected.AgreeFor "project" twinStore.collected crowdedStore.collected :=
    ⟨rfl, by decide, by decide, rfl, rfl, rfl, by decide⟩
  rcases unseen_rows_do_not_interfere wellKeyed_twinStore
    isClean_twinCleanAttempt.isFor agree rfl with
    ⟨sameCandidates, _, sameResult, _⟩
  exact ⟨sameCandidates.symm.trans candidates_twinStore, sameResult⟩

end DeliveryCycle
