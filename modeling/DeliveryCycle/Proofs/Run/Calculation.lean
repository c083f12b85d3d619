import DeliveryCycle.Proofs.Run.Effect
import DeliveryCycle.Proofs.Store.PrimaryKey
import DeliveryCycle.Run.Commit
import Mathlib

/-!
# What a run does

A run that returns did nothing but process the candidates that it started, a prefix of all
candidates. `run_of_returned` says so for every run, whatever goes wrong and whenever it is told to
stop; `run_of_usable` says when a run returns. From the first follows what a committed run leaves in
the store: `calculate_records` gives the records of every task.
-/

namespace DeliveryCycle

namespace RunState

variable {state : RunState}

/-- The result of a run that ends in a state and returns its summary. -/
def complete (state : RunState) : RunResult :=
  (state.logging [completionEntry state.summary]).finish (.ok state.summary)

@[simp]
theorem complete_result : state.complete.result = .ok state.summary := rfl

@[simp]
theorem complete_ledger : state.complete.ledger = state.ledger := rfl

@[simp]
theorem complete_reports : state.complete.reports = state.reports := rfl

@[simp]
theorem complete_stopping : state.complete.stopping = state.stopping := rfl

@[simp]
theorem conclude_none : state.conclude none = state.complete := rfl

theorem conclude_of_returned {failure : Option BatchSizeTooLarge} {summary : RunSummary}
    (returned : (state.conclude failure).result = .ok summary) :
    state.conclude failure = state.complete := by
  unfold conclude at returned ⊢
  split at returned
  · simp [finish] at returned
  · rfl

end RunState

/-- A number of rows that a cursor accepts, given or from the environment. -/
def UsableBatch (environment : Environment) (batchSize : Option Int) : Prop :=
  ∃ size, chosenBatchSize environment batchSize = .ok size ∧ 0 ≤ size ∧ size ≤ greatestBatchSize

namespace RunPlan

variable {plan : RunPlan} {environment : Environment} {batchSize : Option Int} {ledger : Ledger}
variable {summary : RunSummary}

/-- The rows that the cursor of a run hands out. -/
def rows (plan : RunPlan) (environment : Environment) (batchSize : Option Int) : List WorkItem :=
  match plan.candidates environment batchSize with
  | .ok candidates => candidates.rows
  | .error _ => []

/-- The candidates that a run consumes if nothing breaks it down, up to where it has to stop. -/
def consumed (plan : RunPlan) (environment : Environment) (batchSize : Option Int) :
    List WorkItem :=
  plan.startedFrom (.start plan []) (plan.rows environment batchSize)

theorem rows_prefix_candidates :
    plan.rows environment batchSize <+: plan.collected.candidates plan.project := by
  unfold rows candidates
  cases (chosenBatchSize environment batchSize).mapError RunError.unreadableBatchSize with
  | error error => exact List.nil_prefix
  | ok size =>
      cases plan.faults.cursor with
      | some failure => exact List.nil_prefix
      | none =>
          exact fetched_rows_prefix_rows size _

theorem consumed_prefix_candidates :
    plan.consumed environment batchSize <+: plan.collected.candidates plan.project :=
  (List.take_prefix _ _).trans rows_prefix_candidates

/-- A run that returned did nothing but process the candidates that it consumed. -/
theorem run_of_returned (returned : (plan.run environment batchSize ledger).result = .ok summary) :
    plan.run environment batchSize ledger =
      (plan.walked (.start plan ledger) (plan.rows environment batchSize)).complete := by
  simp only [run, rows] at returned ⊢
  cases candidates : plan.candidates environment batchSize with
  | error error => simp [candidates, RunState.finish] at returned
  | ok found =>
      simp only [candidates] at returned ⊢
      rcases ended : (RunState.start plan ledger).walk plan found.rows with ⟨last, breakdown⟩
      cases breakdown with
      | some error => simp [ended, RunState.finish] at returned
      | none =>
          simp only [ended] at returned ⊢
          rw [RunState.conclude_of_returned returned, RunState.walk_eq ended]

/-- What a run that returned leaves, and what it counts. -/
theorem run_effect (returned : (plan.run environment batchSize ledger).result = .ok summary) :
    (plan.run environment batchSize ledger).ledger =
        (plan.consumed environment batchSize).foldl plan.write ledger ∧
      (plan.run environment batchSize ledger).reports =
        (plan.consumed environment batchSize).length ∧
      summary.candidates = (plan.consumed environment batchSize).length := by
  have completed := run_of_returned returned
  have started : plan.startedFrom (.start plan ledger) (plan.rows environment batchSize) =
      plan.consumed environment batchSize := rfl
  have summaryEq : summary =
      (plan.walked (.start plan ledger) (plan.rows environment batchSize)).summary := by
    simpa [completed] using returned.symm
  refine ⟨?_, ?_, ?_⟩
  · rw [completed, RunState.complete_ledger, walked_ledger, started]
    rfl
  · rw [completed, RunState.complete_reports, walked_reports, started]
    exact Nat.zero_add _
  · rw [summaryEq, walked_summary rfl, started]
    simp [RunSummary.tally_candidates, RunState.start, RunSummary.start]

theorem candidates_of_usable (usable : UsableBatch environment batchSize)
    (opened : plan.faults.cursor = none) :
    plan.candidates environment batchSize =
      .ok ⟨plan.collected.candidates plan.project, none⟩ := by
  rcases usable with ⟨size, chosen, least, greatest⟩
  simp [candidates, chosen, opened, Except.mapError, bind, Except.bind,
    fetched_of_le_greatest _ least greatest]

theorem consumed_of_usable (usable : UsableBatch environment batchSize)
    (opened : plan.faults.cursor = none) (ledger : Ledger) :
    plan.consumed environment batchSize =
      plan.startedFrom (.start plan ledger) (plan.collected.candidates plan.project) := by
  simp only [consumed, rows, candidates_of_usable usable opened]
  rfl

/-- A run that is never told to stop consumes all candidates. -/
theorem consumed_of_not_stops (usable : UsableBatch environment batchSize)
    (opened : plan.faults.cursor = none) (goesOn : ¬plan.signals.Stops) :
    plan.consumed environment batchSize = plan.collected.candidates plan.project := by
  have running : (RunState.start plan []).stopping = false :=
    Signals.stopAtStart_of_not_stops goesOn
  have never := Signals.stopsWith_of_not_stops goesOn
  simp [consumed_of_usable usable opened [], startedFrom, running, Signals.limit_of_never never]

theorem consumed_of_undisturbed (usable : UsableBatch environment batchSize)
    (opened : plan.faults.cursor = none) (undisturbed : plan.signals = .none) :
    plan.consumed environment batchSize = plan.collected.candidates plan.project := by
  apply consumed_of_not_stops usable opened
  rw [undisturbed]
  exact Signals.not_stops_none

/-- A run whose cursor works and that nothing breaks down returns. -/
theorem run_of_usable (usable : UsableBatch environment batchSize)
    (opened : plan.faults.cursor = none) (steady : plan.Steady) :
    plan.run environment batchSize ledger =
      (plan.walked (.start plan ledger) (plan.collected.candidates plan.project)).complete := by
  simp [run, candidates_of_usable usable opened, RunState.walk_of_steady steady]

end RunPlan

section Committed

variable {environment : Environment} {store : Store} {request : RunRequest} {options : RunOptions}
variable {summary : RunSummary}

/-- A run that is committed returned, and the store holds what it left in the ledger. -/
theorem calculate_of_returned (accepted : RunOptions.ofName request.projectName = .ok options)
    (returned : (calculate environment store request).result = .ok summary) :
    let run := (request.plan store options).run environment request.batchSize store.ledger
    run.result = .ok summary ∧
      (calculate environment store request).store = store.withLedger run.ledger ∧
        (calculate environment store request).reports = run.reports := by
  intro run
  simp only [calculate, accepted] at returned ⊢
  cases ended : run.result with
  | error error => simp [run, ended, CommittedRun.failed] at returned
  | ok found =>
      simp only [run] at ended
      simp only [ended, Except.ok.injEq] at returned ⊢
      exact ⟨returned, rfl, rfl⟩

/-- The project of a run that returned was accepted. -/
theorem accepted_of_returned
    (returned : (calculate environment store request).result = .ok summary) :
    ∃ options, RunOptions.ofName request.projectName = .ok options := by
  cases accepted : RunOptions.ofName request.projectName with
  | error issue => simp [calculate, accepted, CommittedRun.failed] at returned
  | ok options => exact ⟨options, rfl⟩

/-- A run whose cursor works and that nothing breaks down is committed. -/
theorem calculate_of_usable (accepted : RunOptions.ofName request.projectName = .ok options)
    (usable : UsableBatch environment request.batchSize) (opened : request.faults.cursor = none)
    (steady : (request.plan store options).Steady) :
    let last := (request.plan store options).walked
      (.start (request.plan store options) store.ledger)
      (store.collected.candidates options.project)
    (calculate environment store request).result = .ok last.summary ∧
      (calculate environment store request).store = store.withLedger last.ledger ∧
        (calculate environment store request).reports = last.reports := by
  have completed : (request.plan store options).run environment request.batchSize store.ledger =
      _ := RunPlan.run_of_usable usable opened steady
  simp only [calculate, accepted, completed, RunState.complete_result, RunState.complete_ledger,
    RunState.complete_reports]
  exact ⟨rfl, rfl, rfl⟩

theorem calculate_store_of_failed {error : CommitError}
    (failed : (calculate environment store request).result = .error error) :
    (calculate environment store request).store = store := by
  unfold calculate at failed ⊢
  split at failed
  · rfl
  · dsimp only at failed ⊢
    split at failed
    · rfl
    · contradiction

/-- No run changes the collected rows. -/
theorem calculate_collected :
    (calculate environment store request).store.collected = store.collected := by
  unfold calculate
  cases RunOptions.ofName request.projectName with
  | error issue => rfl
  | ok options =>
      dsimp only
      split
      · rfl
      · rfl

theorem Store.WellKeyed.withLedger {ledger : Ledger} (wellKeyed : store.WellKeyed)
    (ledgerKeyed : ledger.WellKeyed) : (store.withLedger ledger).WellKeyed :=
  { wellKeyed with ledger := ledgerKeyed }

/-- Every run keeps the keys of the store apart. -/
theorem Store.WellKeyed.calculate (wellKeyed : store.WellKeyed) :
    (DeliveryCycle.calculate environment store request).store.WellKeyed := by
  cases ended : (DeliveryCycle.calculate environment store request).result with
  | error error =>
      rw [calculate_store_of_failed ended]
      exact wellKeyed
  | ok summary =>
      rcases accepted_of_returned ended with ⟨options, accepted⟩
      rcases calculate_of_returned accepted ended with ⟨returned, committed, _⟩
      rw [committed, (RunPlan.run_effect returned).1]
      exact wellKeyed.withLedger (RunPlan.wellKeyed_foldl_write wellKeyed.ledger)

/-- A committing run whose cursor works and that nothing breaks down returns unless its caller was
cancelled. -/
theorem calculateAndCommit_of_usable
    (accepted : RunOptions.ofName request.projectName = .ok options)
    (usable : UsableBatch environment request.batchSize) (opened : request.faults.cursor = none)
    (steady : (request.plan store options).Steady) :
    let last := (request.plan store options).walked
      (.start (request.plan store options) store.ledger)
      (store.collected.candidates options.project)
    (calculateAndCommit environment store request).result =
      if last.stopping then .error .cancelled else .ok last.summary := by
  have completed : (request.plan store options).run environment request.batchSize store.ledger =
      _ := RunPlan.run_of_usable usable opened steady
  intro last
  have atEnd : last.stopping = ((request.plan store options).walked
      (.start (request.plan store options) store.ledger)
      ((request.plan store options).collected.candidates
        (request.plan store options).project)).stopping := rfl
  simp only [calculateAndCommit, accepted, commitRun, completed, RunState.complete_result,
    RunState.complete_stopping, ← atEnd]
  cases last.stopping <;> rfl

/-- A run that failed is not committed, also if its caller was cancelled before. -/
theorem commitRun_store_of_failed {error : RunError}
    (failed : (commitRun environment store request options).result = .error (.failed error)) :
    (commitRun environment store request options).store = store := by
  unfold commitRun at failed ⊢
  dsimp only at failed ⊢
  cases ended : ((request.plan store options).run environment request.batchSize
      store.ledger).result with
  | error cause => rfl
  | ok summary =>
      simp only [ended] at failed
      split at failed <;> simp at failed

/-- A committing run leaves the store as it was, or returned and leaves its ledger. -/
theorem commitRun_store_cases (environment : Environment) (store : Store) (request : RunRequest)
    (options : RunOptions) :
    let run := (request.plan store options).run environment request.batchSize store.ledger
    (commitRun environment store request options).store = store ∨
      ∃ summary, run.result = .ok summary ∧
        (commitRun environment store request options).store = store.withLedger run.ledger := by
  intro run
  have same : (request.plan store options).run environment request.batchSize store.ledger =
      run := rfl
  simp only [commitRun, same]
  cases run.result with
  | error error => exact .inl rfl
  | ok summary =>
      refine .inr ⟨summary, rfl, ?_⟩
      cases run.stopping <;> rfl

/-- Whether its caller was cancelled changes nothing about what a run leaves in the store. -/
theorem calculateAndCommit_store :
    (calculateAndCommit environment store request).store =
      (calculate environment store request).store := by
  unfold calculateAndCommit calculate
  cases RunOptions.ofName request.projectName with
  | error issue => rfl
  | ok options =>
      simp only [commitRun]
      split
      · rfl
      · split <;> rfl

theorem nodup_consumed_key (wellKeyed : store.WellKeyed) (batchSize : Option Int) :
    (((request.plan store options).consumed environment batchSize).map (·.key)).Nodup :=
  (Collected.nodup_candidates_key wellKeyed.workItems).sublist
    (RunPlan.consumed_prefix_candidates.sublist.map _)

/-- The records of a task after a committed run. -/
theorem recordsOf_calculate (wellKeyed : store.WellKeyed)
    (accepted : RunOptions.ofName request.projectName = .ok options)
    (returned : (calculate environment store request).result = .ok summary)
    (task : Int × String) :
    (calculate environment store request).store.ledger.recordsOf task =
      match (request.plan store options).recordLeft?
          ((request.plan store options).consumed environment request.batchSize) task with
      | some record => [record]
      | none => store.ledger.recordsOf task := by
  rcases calculate_of_returned accepted returned with ⟨runReturned, committed, _⟩
  rw [committed, Store.withLedger, (RunPlan.run_effect runReturned).1]
  exact RunPlan.recordsOf_foldl_write wellKeyed.ledger (nodup_consumed_key wellKeyed _) task

/-- A committed run changes nothing but the records of the tasks that it resolved. If a candidate
was consumed, no fault hit it and it was resolved in the rows that the store held before, its record
is the only one of its task. A task without such a candidate has the records that it had before,
also if the storage failed after its record was written. -/
theorem calculate_records (wellKeyed : store.WellKeyed)
    (accepted : RunOptions.ofName request.projectName = .ok options)
    (returned : (calculate environment store request).result = .ok summary) :
    let after := (calculate environment store request).store
    let consumed := (request.plan store options).consumed environment request.batchSize
    after.collected = store.collected ∧
      consumed <+: store.collected.candidates options.project ∧
      summary.candidates = consumed.length ∧
      ∀ task : Int × String,
        (∀ item ∈ consumed, item.key = task → request.faults.Spares task →
          ∀ correlation,
            (resolve .usual store.collected options.project item).correlation =
                some correlation →
              after.ledger.recordsOf task = [correlation.momentRecord]) ∧
        ((∀ item ∈ consumed, item.key = task → request.faults.Spares task →
            (resolve .usual store.collected options.project item).correlation = none) →
          after.ledger.recordsOf task = store.ledger.recordsOf task) := by
  intro after consumed
  rcases calculate_of_returned accepted returned with ⟨runReturned, _, _⟩
  have nodup : (consumed.map (·.key)).Nodup := nodup_consumed_key wellKeyed _
  refine ⟨calculate_collected, RunPlan.consumed_prefix_candidates,
    (RunPlan.run_effect runReturned).2.2, fun task => ⟨?_, ?_⟩⟩
  · intro item mem same spared correlation resolved
    have fresh : (request.plan store options).freshRecord? item = some correlation.momentRecord :=
      RunPlan.freshRecord?_eq_some_iff.mpr ⟨same ▸ spared, correlation, resolved, rfl⟩
    have left := (RunPlan.recordLeft?_eq_some_iff nodup).mpr ⟨item, mem, same, fresh⟩
    have view := recordsOf_calculate wellKeyed accepted returned task
    rw [left] at view
    exact view
  · intro unresolved
    have noneLeft : (request.plan store options).recordLeft? consumed task = none := by
      apply (RunPlan.recordLeft?_eq_none_iff nodup).mpr
      intro item mem same
      apply Option.eq_none_iff_forall_ne_some.mpr
      intro record fresh
      rcases RunPlan.freshRecord?_eq_some_iff.mp fresh with ⟨spared, correlation, resolved, _⟩
      have nothing := unresolved item mem same (same ▸ spared)
      exact absurd (nothing.symm.trans resolved) (by simp)
    have view := recordsOf_calculate wellKeyed accepted returned task
    rw [noneLeft] at view
    exact view

end Committed

/-- A task of a connection that is linked to the first pull request. -/
def linkedTask (connectionId : Int) (id : String) : WorkItem where
  connectionId := connectionId
  id := id
  name := "task"
  status := "done"
  url := ""
  createdAt := ⟨0⟩
  linkedPrUrl := ""
  linkedPrNumber := some 1
  linkedBranch := ""

/-- A record of a task about a deployment that no store knows any more. -/
def staleRecord (connectionId : Int) (id : String) : CycleRecord Moment where
  taskId := id
  deploymentId := "stale"
  connectionId := connectionId
  taskCreatedAt := ⟨0⟩
  firstCommitAt := none
  pullRequestCreatedAt := none
  pullRequestMergedAt := none
  deployedAt := none
  metrics := ⟨none, none, none, none⟩

/-- A store with one task under two connections, both with a stale record. -/
def twinStore : Store where
  collected := { Collected.empty with
    workItems := [linkedTask 1 "T", linkedTask 2 "T"]
    pullRequests := [⟨"pull", "repository", 1, "change", "branch", ⟨60000000⟩, none, none⟩]
    projectScopes := [⟨"project", repositoryTable, "repository"⟩] }
  ledger := [staleRecord 1 "T", staleRecord 2 "T"]

theorem wellKeyed_twinStore : twinStore.WellKeyed := by
  constructor
  case ledger => exact Store.keysApart_ledger_iff.mp (keysDistinct_eq_true_iff.mp (by decide))
  all_goals exact keysDistinct_eq_true_iff.mp (by decide)

theorem candidates_twinStore :
    twinStore.collected.candidates "project" = [linkedTask 1 "T", linkedTask 2 "T"] := by
  cbv

/-- The storage fails on the task of one connection after its record was written. -/
def twinRequest : RunRequest where
  projectName := "project"
  batchSize := some 1
  faults := { Faults.none with
    afterWrite := fun task => if task = (1, "T") then some ⟨"OperationalError", "lost"⟩ else none }
  signals := .none

/-- Both records of the task are stale before, and one of them afterwards. -/
theorem calculate_records_twinStore :
    ∃ summary, (calculate [] twinStore twinRequest).result = .ok summary ∧
      (calculate [] twinStore twinRequest).store.ledger.recordsOf (1, "T") =
          [staleRecord 1 "T"] ∧
        ∃ correlation,
          (calculate [] twinStore twinRequest).store.ledger.recordsOf (2, "T") =
            [Correlation.momentRecord correlation] := by
  have accepted : RunOptions.ofName twinRequest.projectName = .ok ⟨"project"⟩ := by decide
  have usable : UsableBatch [] twinRequest.batchSize := ⟨1, rfl, by decide, by decide⟩
  have steady : (twinRequest.plan twinStore ⟨"project"⟩).Steady := ⟨fun _ => rfl, fun _ => rfl⟩
  have returned := (calculate_of_usable accepted usable rfl steady).1
  have consumed : (twinRequest.plan twinStore ⟨"project"⟩).consumed [] twinRequest.batchSize =
      [linkedTask 1 "T", linkedTask 2 "T"] :=
    (RunPlan.consumed_of_undisturbed usable rfl rfl).trans candidates_twinStore
  have found :
      (resolve .usual twinStore.collected "project" (linkedTask 2 "T")).correlation.isSome := by
    cbv
  rcases Option.isSome_iff_exists.mp found with ⟨correlation, resolved⟩
  rcases calculate_records wellKeyed_twinStore accepted returned with ⟨_, _, _, records⟩
  simp only [consumed, List.mem_cons, List.not_mem_nil, or_false] at records
  refine ⟨_, returned, ?_, correlation, ?_⟩
  · apply (records (1, "T")).2
    intro item mem same spared
    exact absurd spared.2.2.2 (by decide)
  · exact (records (2, "T")).1 (linkedTask 2 "T") (.inr rfl) rfl (by decide) correlation resolved

end DeliveryCycle
