import DeliveryCycle.Proofs.Record.Acceptance
import DeliveryCycle.Proofs.Run.Convergence

/-!
# Runs that no fault hits

Every candidate of a project can be resolved, and its record is never refused. So a run that no
fault hits writes a record for every candidate that it starts: it leaves none unmatched and none
failed. The only reason for which such a run does not return is the size of its batches, and whoever
cancels it learns that it was cancelled.
-/

namespace DeliveryCycle

/-- A run failed over the size of its batches, which is unreadable or too large. -/
def RunError.IsAboutBatch : RunError → Prop
  | .unreadableBatchSize _ | .batchSizeTooLarge _ => True
  | .invalidOptions _ | .cursorFailed _ | .breakdown _ => False

namespace RunSummary

/-- Candidates whose records were written are counted as processed and as nothing else. -/
structure IsComplete (summary : RunSummary) : Prop where
  processed : summary.processed = summary.candidates
  unmatched : summary.unmatched = 0
  failed : summary.failed = 0

theorem IsComplete.record {summary : RunSummary} {outcome : Outcome}
    (complete : summary.IsComplete) (processed : outcome.isProcessed = true) :
    (summary.record outcome).IsComplete := by
  have written : tick outcome.isProcessed = 1 := by simp [tick, processed]
  have matched : tick (outcome = .unmatched) = 0 := by
    cases outcome <;> first | rfl | contradiction
  have succeeded : tick (outcome = .failed) = 0 := by
    cases outcome <;> first | rfl | contradiction
  constructor
  · simp only [RunSummary.record, written, complete.processed]
  · simp only [RunSummary.record, matched, complete.unmatched]
  · simp only [RunSummary.record, succeeded, complete.failed]

theorem IsComplete.tally {summary : RunSummary} {outcomes : List Outcome}
    (complete : summary.IsComplete) (processed : ∀ outcome ∈ outcomes, outcome.isProcessed = true) :
    (summary.tally outcomes).IsComplete := by
  induction outcomes generalizing summary with
  | nil => exact complete
  | cons outcome rest ih =>
      apply ih (complete.record (processed outcome List.mem_cons_self))
      intro later laterMem
      exact processed later (List.mem_cons_of_mem _ laterMem)

end RunSummary

namespace RunPlan

variable {plan : RunPlan} {environment : Environment} {batchSize : Option Int} {ledger : Ledger}
variable {item : WorkItem} {items : List WorkItem}

/-- A candidate that no fault hits gets its record. -/
theorem isProcessed_outcomeOf (faultless : plan.faults = .none)
    (mem : item ∈ plan.collected.candidates plan.project) :
    (plan.outcomeOf item).isProcessed = true := by
  rcases Collected.resolvesWithin_of_mem_candidates mem with ⟨correlation, resolved, _⟩
  have found : plan.correlation? item = some correlation := resolved
  have spared : Faults.none.Spares item.key := ⟨rfl, rfl, rfl, rfl⟩
  have outcome : plan.outcomeOf item = correlation.outcome := by
    unfold outcomeOf
    rw [faultless, found]
    show (if Faults.none.Spares item.key then correlation.outcome else .failed) = _
    exact if_pos spared
  rw [outcome]
  unfold Correlation.outcome
  split <;> rfl

theorem isComplete_walked (faultless : plan.faults = .none)
    (among : ∀ item ∈ items, item ∈ plan.collected.candidates plan.project) (ledger : Ledger) :
    (plan.walked (.start plan ledger) items).summary.IsComplete := by
  have started : ((RunSummary.start plan.project).tally
      ((plan.startedFrom (.start plan ledger) items).map plan.outcomeOf)).IsComplete := by
    apply RunSummary.IsComplete.tally ⟨rfl, rfl, rfl⟩
    intro outcome outcomeMem
    rcases List.mem_map.mp outcomeMem with ⟨item, mem, rfl⟩
    exact isProcessed_outcomeOf faultless (among item (List.mem_of_mem_take mem))
  rw [walked_summary rfl]
  exact ⟨started.processed, started.unmatched, started.failed⟩

/-- A run in which nothing breaks down walks over what its cursor hands out. -/
theorem run_of_steady (steady : plan.Steady) :
    plan.run environment batchSize ledger =
      match plan.candidates environment batchSize with
      | .error error => (RunState.start plan ledger).finish (.error error)
      | .ok candidates =>
          (plan.walked (.start plan ledger) candidates.rows).conclude candidates.failure := by
  unfold run
  cases plan.candidates environment batchSize with
  | error error => rfl
  | ok candidates => simp [RunState.walk_of_steady steady]

theorem isAboutBatch_of_candidates (faultless : plan.faults = .none) {error : RunError}
    (failed : plan.candidates environment batchSize = .error error) : error.IsAboutBatch := by
  unfold candidates at failed
  cases chosen : chosenBatchSize environment batchSize with
  | error unreadable =>
      simp only [chosen, Except.mapError, bind, Except.bind, Except.error.injEq] at failed
      exact failed ▸ trivial
  | ok size =>
      rw [chosen, faultless] at failed
      contradiction

theorem stops_of_run_stopping {summary : RunSummary}
    (returned : (plan.run environment batchSize ledger).result = .ok summary)
    (stopping : (plan.run environment batchSize ledger).stopping = true) : plan.signals.Stops := by
  by_contra goesOn
  rw [run_of_returned returned, RunState.complete_stopping, walked_stopping,
    foldl_processed_stopping (Signals.stopsWith_of_not_stops goesOn)] at stopping
  exact goesOn (.inl stopping)

/-- A run that no fault hits is complete, or its batches are too large or of no readable size. -/
theorem run_of_faultless (faultless : plan.faults = .none) (steady : plan.Steady)
    (environment : Environment) (batchSize : Option Int) (ledger : Ledger) :
    (∃ summary, (plan.run environment batchSize ledger).result = .ok summary ∧
        summary.IsComplete) ∨
      ∃ error, (plan.run environment batchSize ledger).result = .error error ∧
        error.IsAboutBatch ∧ ¬UsableBatch environment batchSize := by
  have opened : plan.faults.cursor = none := by rw [faultless]; rfl
  have among : ∀ item ∈ plan.rows environment batchSize,
      item ∈ plan.collected.candidates plan.project := fun _ mem =>
    rows_prefix_candidates.subset mem
  rw [run_of_steady steady]
  cases handedOut : plan.candidates environment batchSize with
  | error error =>
      right
      refine ⟨error, rfl, isAboutBatch_of_candidates faultless handedOut, fun usable => ?_⟩
      rw [candidates_of_usable usable opened] at handedOut
      contradiction
  | ok candidates =>
      have complete : (plan.walked (.start plan ledger) candidates.rows).summary.IsComplete := by
        apply isComplete_walked faultless
        simpa [rows, handedOut] using among
      dsimp only
      unfold RunState.conclude
      split
      · -- Only a batch that is too large leaves a failure behind the rows.
        rename_i tooLarge failure _
        right
        refine ⟨.batchSizeTooLarge tooLarge, rfl, trivial, fun usable => ?_⟩
        rw [candidates_of_usable usable opened] at handedOut
        have whole := congrArg Fetched.failure (Except.ok.inj handedOut)
        exact absurd (whole.trans failure) (by simp)
      · left
        exact ⟨_, rfl, complete⟩

end RunPlan

namespace Attempt

variable {attempt : Attempt} {store : Store} {project : String} {summary : RunSummary}

/-- An attempt to run a project that no fault hits. It may be told to stop at any time, and its
batches may be of any size. -/
structure IsFaultless (attempt : Attempt) (project : String) : Prop where
  accepted : RunOptions.ofName attempt.request.projectName = .ok ⟨project⟩
  faults : attempt.request.faults = .none
  listener : ∀ number, attempt.request.signals.reportBreakdown number = none

theorem IsFaultless.steady (faultless : attempt.IsFaultless project) :
    (attempt.request.plan store ⟨project⟩).Steady := by
  constructor
  · intro task
    have unhit : (attempt.request.plan store ⟨project⟩).faults = .none := faultless.faults
    rw [unhit]
    rfl
  · exact faultless.listener

/-- How an attempt ends: as its run does, unless the run returned and the caller was cancelled. -/
theorem perform_result (accepted : RunOptions.ofName attempt.request.projectName = .ok ⟨project⟩) :
    let run := (attempt.request.plan store ⟨project⟩).run attempt.environment
      attempt.request.batchSize store.ledger
    (attempt.perform store).result =
      match run.result with
      | .error error => .error (.failed error)
      | .ok summary =>
          if attempt.keepsOnCancel && run.stopping then .error .cancelled else .ok summary := by
  intro run
  have ended : (attempt.request.plan store ⟨project⟩).run attempt.environment
      attempt.request.batchSize store.ledger = run := rfl
  unfold perform
  cases keeps : attempt.keepsOnCancel with
  | false =>
      simp only [calculate, accepted, ended, Bool.false_eq_true, if_false, Bool.false_and]
      cases run.result <;> rfl
  | true =>
      simp only [calculateAndCommit, accepted, commitRun, ended, if_true, Bool.true_and]
      cases run.result with
      | error error => rfl
      | ok summary => cases run.stopping <;> rfl

end Attempt

/-- Every candidate of a project has a pull request in one of its repositories, and its record is
measured and is not refused. So an attempt that no fault hits counts all that it starts as
processed, and that is all candidates unless it is told to stop. It does not return a summary in two
cases only: its caller was cancelled and learns that, or its batches have no size that a cursor
accepts. -/
theorem faultless_attempt_processes_candidates {attempt : Attempt} {store : Store}
    {project : String} (storable : store.collected.Storable)
    (faultless : attempt.IsFaultless project) :
    let signals := attempt.request.signals
    let usable := UsableBatch attempt.environment attempt.request.batchSize
    (∀ item ∈ store.collected.candidates project,
      store.collected.ResolvesWithin project item ∧
        ∀ correlation,
          (resolve .usual store.collected project item).correlation = some correlation →
            correlation.record = .ok correlation.momentRecord ∧
              ∀ ledger : Ledger, ledger.upsert correlation.momentRecord.draft =
                .ok (ledger.put correlation.momentRecord)) ∧
      ((∃ summary, (attempt.perform store).result = .ok summary ∧ summary.IsComplete ∧
          (usable → ¬signals.Stops →
            summary.candidates = (store.collected.candidates project).length)) ∨
        ((attempt.perform store).result = .error .cancelled ∧ attempt.keepsOnCancel = true ∧
          signals.Stops) ∨
        ∃ error, (attempt.perform store).result = .error (.failed error) ∧
          error.IsAboutBatch ∧ ¬usable) := by
  intro signals usable
  have unhit : (attempt.request.plan store ⟨project⟩).faults = .none := faultless.faults
  constructor
  · intro item mem
    refine ⟨Collected.resolvesWithin_of_mem_candidates mem, fun correlation resolved => ⟨?_, ?_⟩⟩
    · exact correlation.record_moment
    · exact upsert_draft storable (Collected.mem_workItems_of_mem_candidates mem) resolved
  · rw [Attempt.perform_result faultless.accepted]
    rcases RunPlan.run_of_faultless unhit faultless.steady attempt.environment
        attempt.request.batchSize store.ledger with
      ⟨summary, returned, complete⟩ | ⟨error, failed, aboutBatch, unusable⟩
    · rw [returned]
      dsimp only
      split
      · rename_i cancelled
        rcases Bool.and_eq_true_iff.mp cancelled with ⟨keeps, stopping⟩
        exact .inr (.inl ⟨rfl, keeps, RunPlan.stops_of_run_stopping returned stopping⟩)
      · refine .inl ⟨summary, rfl, complete, fun usable goesOn => ?_⟩
        rw [(RunPlan.run_effect returned).2.2]
        have opened : (attempt.request.plan store ⟨project⟩).faults.cursor = none := by
          rw [unhit]
          rfl
        rw [RunPlan.consumed_of_not_stops usable opened goesOn]
        rfl
    · rw [failed]
      exact .inr (.inr ⟨error, rfl, aboutBatch, unusable⟩)

theorem storable_twinStore : twinStore.collected.Storable :=
  ⟨by decide, by decide, by decide, by decide⟩

/-- A clean attempt to run the project of the store with a task under two connections processes
both. -/
theorem twinCleanAttempt_processes_candidates :
    ∃ summary, (twinCleanAttempt.perform twinStore).result = .ok summary ∧
      summary.processed = 2 ∧ summary.unmatched = 0 ∧ summary.failed = 0 := by
  have accepted : RunOptions.ofName twinRequest.projectName = .ok ⟨"project"⟩ := by decide
  have usable : UsableBatch [] twinRequest.batchSize := ⟨1, rfl, by decide, by decide⟩
  have faultless : twinCleanAttempt.IsFaultless "project" := ⟨accepted, rfl, fun _ => rfl⟩
  rcases (faultless_attempt_processes_candidates storable_twinStore faultless).2 with
    ⟨summary, returned, complete, all⟩ | ⟨_, keeps, _⟩ | ⟨_, _, _, unusable⟩
  · have two : summary.candidates = 2 := by
      rw [all usable Signals.not_stops_none, candidates_twinStore]
      rfl
    exact ⟨summary, returned, complete.processed.trans two, complete.unmatched, complete.failed⟩
  · contradiction
  · exact absurd usable unusable

end DeliveryCycle
