import DeliveryCycle.Proofs.Run.Calculation

/-!
# What a run accounts for

A run tells about its candidates in four ways: by the counters of its summary, by its reports, by
the log and by the records that it leaves. All four follow from the outcomes of the candidates that
it consumed. The counters are the numbers of the outcomes, by `tally_eq`; an outcome says whether
there is a fresh record, by `isProcessed_outcomeOf_eq_isSome`, and whether the storage failed, by
`outcomeOf_eq_failed_iff`; and the log tells of a failure exactly for the candidates of the last
kind, by `filter_entriesOf`.
-/

namespace DeliveryCycle

namespace RunSummary

theorem tally_cons (summary : RunSummary) (outcome : Outcome) (rest : List Outcome) :
    summary.tally (outcome :: rest) = (summary.record outcome).tally rest := rfl

theorem tally_eq (summary : RunSummary) (outcomes : List Outcome) :
    summary.tally outcomes =
      { project := summary.project
        candidates := summary.candidates + (outcomes.count .unmatched + outcomes.count .resolved +
          outcomes.count .deployed + outcomes.count .failed)
        processed := summary.processed + (outcomes.count .resolved + outcomes.count .deployed)
        withDeployment := summary.withDeployment + outcomes.count .deployed
        unmatched := summary.unmatched + outcomes.count .unmatched
        failed := summary.failed + outcomes.count .failed
        cancelled := summary.cancelled } := by
  induction outcomes generalizing summary with
  | nil => rfl
  | cons outcome rest ih =>
      rw [tally_cons, ih]
      cases outcome <;> simp [record, tick, Outcome.isProcessed] <;> omega

theorem countP_isProcessed (outcomes : List Outcome) :
    outcomes.countP (·.isProcessed) = outcomes.count .resolved + outcomes.count .deployed := by
  induction outcomes with
  | nil => rfl
  | cons outcome rest ih =>
      rw [List.countP_cons, ih]
      cases outcome <;> simp [Outcome.isProcessed] <;> omega

end RunSummary

namespace RunPlan

/-- The correlation whose record is written for a candidate, if any. -/
def freshCorrelation? (plan : RunPlan) (item : WorkItem) : Option (Correlation Moment) :=
  if plan.faults.Spares item.key then plan.correlation? item else none

/-- The failure of the storage that a candidate comes to, if any. -/
def failure? (plan : RunPlan) (item : WorkItem) : Option StorageFailure :=
  match plan.faults.resolving item.key with
  | some failure => some failure
  | none =>
      if plan.faults.overlooked item.key then none
      else
        (plan.correlation? item).bind fun _ =>
          (plan.faults.beforeWrite item.key).or (plan.faults.afterWrite item.key)

variable {plan : RunPlan} {item : WorkItem} {items : List WorkItem} {state : RunState}

theorem freshRecord?_eq_map (plan : RunPlan) (item : WorkItem) :
    plan.freshRecord? item = (plan.freshCorrelation? item).map (·.momentRecord) := by
  unfold freshRecord? freshCorrelation?
  split <;> rfl

/-- A candidate has a fresh record, or comes to a failure of the storage, or has no pull request. -/
theorem outcomeOf_eq (plan : RunPlan) (item : WorkItem) :
    plan.outcomeOf item =
      match plan.freshCorrelation? item, plan.failure? item with
      | some correlation, _ => correlation.outcome
      | none, some _ => .failed
      | none, none => .unmatched := by
  unfold outcomeOf freshCorrelation? failure?
  cases resolving : plan.faults.resolving item.key with
  | some failure => simp [Faults.Spares, resolving]
  | none =>
      cases overlooked : plan.faults.overlooked item.key with
      | true => simp [Faults.Spares, overlooked]
      | false =>
          cases plan.correlation? item with
          | none => simp
          | some correlation =>
              cases before : plan.faults.beforeWrite item.key <;>
                cases after : plan.faults.afterWrite item.key <;>
                  simp [Faults.Spares, resolving, overlooked, before, after]

theorem failure?_of_fresh {correlation : Correlation Moment}
    (fresh : plan.freshCorrelation? item = some correlation) : plan.failure? item = none := by
  unfold freshCorrelation? at fresh
  split at fresh
  · rename_i spared
    rcases spared with ⟨resolving, overlooked, before, after⟩
    simp [failure?, resolving, overlooked, before, after]
  · contradiction

theorem isProcessed_outcomeOf_eq_isSome :
    (plan.outcomeOf item).isProcessed = (plan.freshCorrelation? item).isSome := by
  rw [outcomeOf_eq]
  cases plan.freshCorrelation? item with
  | some correlation =>
      cases deployed : correlation.deployment <;>
        simp [Correlation.outcome, deployed, Outcome.isProcessed]
  | none => cases plan.failure? item <;> rfl

theorem outcomeOf_eq_deployed_iff :
    plan.outcomeOf item = .deployed ↔
      ((plan.freshCorrelation? item).bind (·.deployment)).isSome := by
  rw [outcomeOf_eq]
  cases plan.freshCorrelation? item with
  | some correlation =>
      cases deployed : correlation.deployment <;> simp [Correlation.outcome, deployed]
  | none => cases plan.failure? item <;> simp

theorem outcomeOf_eq_failed_iff :
    plan.outcomeOf item = .failed ↔ (plan.failure? item).isSome := by
  rw [outcomeOf_eq]
  cases fresh : plan.freshCorrelation? item with
  | some correlation =>
      cases deployed : correlation.deployment <;>
        simp [failure?_of_fresh fresh, Correlation.outcome, deployed]
  | none => cases plan.failure? item <;> simp

end RunPlan

/-- Whether an entry of the log warns that a candidate was not processed. -/
def Log.Entry.warnsOfFailure (entry : Log.Entry) : Bool :=
  entry.level = .warning &&
    match entry.message with
    | .text message => "Failed to process task ".toList.isPrefixOf message.toList
    | _ => false

section Warnings

theorem warnsOfFailure_failureEntry (item : WorkItem) (failure : StorageFailure) :
    (failureEntry item failure).warnsOfFailure = true := by
  simp [failureEntry, Log.Entry.detailed, Log.Entry.warnsOfFailure, toString]

theorem warnsOfFailure_startEntry (project : String) :
    (startEntry project).warnsOfFailure = false := rfl

theorem warnsOfFailure_completionEntry (summary : RunSummary) :
    (RunState.completionEntry summary).warnsOfFailure = false := rfl

theorem warnsOfFailure_stopEntry (state : RunState) : state.stopEntry.warnsOfFailure = false := by
  simp [RunState.stopEntry, Log.Entry.plain, Log.Entry.warnsOfFailure, List.isPrefixOf, toString]

theorem filter_resolve_log (strategies : Strategies) (collected : Collected) (project : String)
    (item : WorkItem) :
    (resolve strategies collected project item).log.filter (·.warnsOfFailure) = [] := by
  have debugLevel : Log.Level.debug ≠ .warning := by decide
  have infoLevel : Log.Level.info ≠ .warning := by decide
  unfold resolve
  split
  · simp [noPullRequestEntry, Log.Entry.plain, Log.Entry.warnsOfFailure, debugLevel]
  · unfold deploymentEntry
    dsimp only
    split <;> simp [Log.Entry.plain, Log.Entry.warnsOfFailure, debugLevel, infoLevel]

end Warnings

namespace RunPlan

variable {plan : RunPlan} {item : WorkItem} {items : List WorkItem} {state : RunState}

/-- The log warns of a candidate exactly if it comes to a failure of the storage. -/
theorem filter_entriesOf (plan : RunPlan) (item : WorkItem) :
    (plan.entriesOf item).filter (·.warnsOfFailure) =
      (plan.failure? item).toList.map (failureEntry item) := by
  have quiet := filter_resolve_log .usual plan.collected plan.project item
  unfold entriesOf processCandidate workOn failure? correlation?
  cases plan.faults.resolving item.key with
  | some failure => simp [CandidateWork.close, warnsOfFailure_failureEntry]
  | none =>
      cases plan.faults.overlooked item.key with
      | true => rfl
      | false =>
          simp only [Bool.false_eq_true, if_false]
          cases (resolve .usual plan.collected plan.project item).correlation with
          | none => simpa [CandidateWork.close] using quiet
          | some correlation =>
              unfold writeRecord
              cases plan.faults.beforeWrite item.key with
              | some failure =>
                  simp [CandidateWork.close, quiet, warnsOfFailure_failureEntry]
              | none =>
                  cases plan.faults.afterWrite item.key with
                  | some failure =>
                      simp [CandidateWork.close, quiet, warnsOfFailure_failureEntry]
                  | none =>
                      cases plan.faults.breakdown item.key <;>
                        simp [CandidateWork.close, quiet]

theorem foldl_processed_log :
    (items.foldl plan.processed state).log = state.log ++ items.flatMap plan.entriesOf := by
  induction items generalizing state with
  | nil => simp
  | cons item rest ih =>
      rw [List.foldl_cons, ih, List.flatMap_cons]
      exact List.append_assoc _ _ _

variable {environment : Environment} {batchSize : Option Int} {ledger : Ledger}
variable {summary : RunSummary}

theorem filter_walked_log :
    (plan.walked state items).log.filter (·.warnsOfFailure) =
      state.log.filter (·.warnsOfFailure) ++ (plan.startedFrom state items).flatMap fun item =>
        (plan.failure? item).toList.map (failureEntry item) := by
  have worked : ((plan.startedFrom state items).foldl plan.processed state).log.filter
      (·.warnsOfFailure) = state.log.filter (·.warnsOfFailure) ++
        (plan.startedFrom state items).flatMap fun item =>
          (plan.failure? item).toList.map (failureEntry item) := by
    simp only [foldl_processed_log, List.filter_append, List.filter_flatMap, filter_entriesOf]
  unfold walked
  dsimp only
  split
  · rw [← worked]
    simp [RunState.stop, RunState.logging, warnsOfFailure_stopEntry]
  · exact worked

theorem filter_log_of_returned
    (returned : (plan.run environment batchSize ledger).result = .ok summary) :
    (plan.run environment batchSize ledger).log.filter (·.warnsOfFailure) =
      (plan.consumed environment batchSize).flatMap fun item =>
        (plan.failure? item).toList.map (failureEntry item) := by
  have started : plan.startedFrom (.start plan ledger) (plan.rows environment batchSize) =
      plan.consumed environment batchSize := rfl
  rw [run_of_returned returned, ← started]
  simp [RunState.complete, RunState.logging, RunState.finish, filter_walked_log,
    warnsOfFailure_completionEntry, RunState.start, warnsOfFailure_startEntry]

theorem forall₂_failureEntry (plan : RunPlan) (items : List WorkItem) :
    List.Forall₂ (fun entry item => ∃ failure, entry = failureEntry item failure)
      (items.flatMap fun item => (plan.failure? item).toList.map (failureEntry item))
      (items.filter fun item => plan.outcomeOf item = .failed) := by
  induction items with
  | nil => exact .nil
  | cons item rest ih =>
      have outcome : plan.outcomeOf item = .failed ↔ _ := outcomeOf_eq_failed_iff
      cases failure : plan.failure? item with
      | none =>
          rw [failure] at outcome
          simpa [failure, outcome] using ih
      | some failed =>
          rw [failure] at outcome
          have isFailed : plan.outcomeOf item = .failed := outcome.mpr rfl
          simpa [failure, isFailed] using ih

theorem summary_of_returned
    (returned : (plan.run environment batchSize ledger).result = .ok summary) :
    summary = { (RunSummary.start plan.project).tally
        ((plan.consumed environment batchSize).map plan.outcomeOf) with
      cancelled := summary.cancelled } := by
  have started : plan.startedFrom (.start plan ledger) (plan.rows environment batchSize) =
      plan.consumed environment batchSize := rfl
  have ended : summary =
      (plan.walked (.start plan ledger) (plan.rows environment batchSize)).summary := by
    simpa [run_of_returned returned] using returned.symm
  rw [ended, walked_summary rfl, started]
  rfl

theorem recordsOf_consumed (itemsApart : KeysApart plan.collected.workItems)
    (wellKeyed : ledger.WellKeyed)
    (returned : (plan.run environment batchSize ledger).result = .ok summary)
    (mem : item ∈ plan.consumed environment batchSize) :
    (plan.run environment batchSize ledger).ledger.recordsOf item.key =
      match plan.freshCorrelation? item with
      | some correlation => [correlation.momentRecord]
      | none => ledger.recordsOf item.key := by
  -- No other candidate writes a record of this task.
  have nodup : ((plan.consumed environment batchSize).map (·.key)).Nodup :=
    (Collected.nodup_candidates_key itemsApart).sublist
      (consumed_prefix_candidates.sublist.map _)
  rw [(run_effect returned).1, recordsOf_foldl_write wellKeyed nodup]
  cases fresh : plan.freshCorrelation? item with
  | some correlation =>
      have record : plan.freshRecord? item = some correlation.momentRecord := by
        rw [freshRecord?_eq_map, fresh]
        rfl
      rw [(recordLeft?_eq_some_iff nodup).mpr ⟨item, mem, rfl, record⟩]
  | none =>
      have nothing : plan.recordLeft? (plan.consumed environment batchSize) item.key = none := by
        apply (recordLeft?_eq_none_iff nodup).mpr
        intro other otherMem same
        rw [List.inj_on_of_nodup_map nodup otherMem mem same, freshRecord?_eq_map, fresh]
        rfl
      rw [nothing]

end RunPlan

/-- What a run that returned tells about its candidates. It consumed a prefix of them and reported
each once. Its counters add up; those processed are the ones that left a fresh record, of which some
have a deployment, and no other one changed the records of its task. The log warns of each one that
failed, in their order, with its identifier and its connection. The counters of any outcomes are the
numbers of these. -/
theorem run_accounts_for_candidates {plan : RunPlan} {environment : Environment}
    {batchSize : Option Int} {ledger : Ledger} {summary : RunSummary}
    (itemsApart : KeysApart plan.collected.workItems) (wellKeyed : ledger.WellKeyed)
    (returned : (plan.run environment batchSize ledger).result = .ok summary) :
    let run := plan.run environment batchSize ledger
    let consumed := plan.consumed environment batchSize
    consumed <+: plan.collected.candidates plan.project ∧
    summary.candidates = consumed.length ∧ run.reports = consumed.length ∧
    summary.candidates = summary.processed + summary.unmatched + summary.failed ∧
    summary.withDeployment ≤ summary.processed ∧
    summary.processed = consumed.countP (fun item => (plan.freshCorrelation? item).isSome) ∧
    summary.withDeployment = consumed.countP (fun item =>
      ((plan.freshCorrelation? item).bind (·.deployment)).isSome) ∧
    (∀ item ∈ consumed, run.ledger.recordsOf item.key =
      match plan.freshCorrelation? item with
      | some correlation => [correlation.momentRecord]
      | none => ledger.recordsOf item.key) ∧
    summary.failed = (consumed.filter fun item => plan.outcomeOf item = .failed).length ∧
    List.Forall₂ (fun entry item => ∃ failure : StorageFailure, entry.details =
        some [("task_id", .text item.id), ("connection_id", .int item.connectionId),
          ("error_type", .text failure.kind)])
      (run.log.filter (·.warnsOfFailure))
      (consumed.filter fun item => plan.outcomeOf item = .failed) ∧
    ∀ (project : String) (outcomes : List Outcome),
      let unmatched := outcomes.count .unmatched
      let resolved := outcomes.count .resolved
      let deployed := outcomes.count .deployed
      let failed := outcomes.count .failed
      (RunSummary.start project).tally outcomes =
        { project, candidates := unmatched + resolved + deployed + failed
          processed := resolved + deployed, withDeployment := deployed, unmatched, failed
          cancelled := false } := by
  intro run consumed
  let outcomes := consumed.map plan.outcomeOf
  have counted : summary =
      { (RunSummary.start plan.project).tally outcomes with cancelled := summary.cancelled } :=
    RunPlan.summary_of_returned returned
  rw [RunSummary.tally_eq] at counted
  rcases RunPlan.run_effect returned with ⟨_, reported, candidates⟩
  have processed : summary.processed = outcomes.count .resolved + outcomes.count .deployed := by
    rw [counted]
    exact Nat.zero_add _
  have deployed : summary.withDeployment = outcomes.count .deployed := by
    rw [counted]
    exact Nat.zero_add _
  have failed : summary.failed = outcomes.count .failed := by
    rw [counted]
    exact Nat.zero_add _
  refine ⟨RunPlan.consumed_prefix_candidates, candidates, reported, ?_, ?_, ?_, ?_, ?_, ?_, ?_, ?_⟩
  · rw [counted]
    simp only [RunSummary.start]
    omega
  · omega
  · rw [processed, ← RunSummary.countP_isProcessed, List.countP_map]
    apply List.countP_congr
    intro item _
    simp [RunPlan.isProcessed_outcomeOf_eq_isSome]
  · rw [deployed, List.count_eq_countP, List.countP_map]
    apply List.countP_congr
    intro item _
    simp [RunPlan.outcomeOf_eq_deployed_iff]
  · intro item mem
    exact RunPlan.recordsOf_consumed itemsApart wellKeyed returned mem
  · rw [failed, List.count_eq_countP, List.countP_map, List.countP_eq_length_filter]
    rfl
  · rw [RunPlan.filter_log_of_returned returned]
    apply (RunPlan.forall₂_failureEntry plan consumed).imp
    rintro entry item ⟨failure, rfl⟩
    exact ⟨failure, rfl⟩
  · intro project outcomes
    rw [RunSummary.tally_eq]
    simp [RunSummary.start]

/-- Of a task under two connections the storage fails on one, and the other one is processed. -/
theorem twinRun_accounts_for_candidates :
    ∃ summary, ((twinRequest.plan twinStore ⟨"project"⟩).run [] twinRequest.batchSize
        twinStore.ledger).result = .ok summary ∧
      summary.failed = 1 ∧ summary.processed = 1 := by
  have usable : UsableBatch [] twinRequest.batchSize := ⟨1, rfl, by decide, by decide⟩
  have steady : (twinRequest.plan twinStore ⟨"project"⟩).Steady := ⟨fun _ => rfl, fun _ => rfl⟩
  have returned : ((twinRequest.plan twinStore ⟨"project"⟩).run [] twinRequest.batchSize
      twinStore.ledger).result = .ok _ :=
    congrArg (·.result) (RunPlan.run_of_usable usable rfl steady)
  have consumed : (twinRequest.plan twinStore ⟨"project"⟩).consumed [] twinRequest.batchSize =
      [linkedTask 1 "T", linkedTask 2 "T"] :=
    (RunPlan.consumed_of_undisturbed usable rfl rfl).trans candidates_twinStore
  rcases run_accounts_for_candidates wellKeyed_twinStore.workItems wellKeyed_twinStore.ledger
    returned with ⟨_, _, _, _, _, processed, _, _, failed, _⟩
  rw [consumed] at processed failed
  refine ⟨_, returned, failed.trans ?_, processed.trans ?_⟩
  · cbv
  · cbv

end DeliveryCycle
