import DeliveryCycle.Proofs.Run.Calculation

/-!
# Runs that are told to stop

A run can be told to stop while it reports progress, or while it resolves a candidate because its
caller is cancelled. Either way it ends the candidate that it is working on and starts no other one,
so that it processes a prefix of the candidates: `limit_stopAfter` and `limit_stopsDuring` give its
length. Both ways leave the same store, and for the candidates of the prefix it is the one that a
run which goes on to its end leaves.
-/

namespace DeliveryCycle

/-- Of what may go wrong, only the storage fails, and only on single candidates. -/
structure Faults.StorageOnly (faults : Faults) : Prop where
  cursor : faults.cursor = .none
  breakdown : ∀ task, faults.breakdown task = .none

namespace Signals

/-- A run is told to stop while it reports its progress for the given time; before it starts if this
number is zero. -/
def stopAfter (count : Nat) : Signals :=
  { Signals.none with
    stopAtStart := count = 0
    stopAtReport := fun number => count = number }

/-- A run is told to stop while it resolves a task that meets a condition. -/
def stopsDuring (condition : Int × String → Bool) : Signals :=
  { Signals.none with stopDuring := condition }

variable {condition : Int × String → Bool} {item : WorkItem} {items before rest : List WorkItem}

/-- A run that is told to stop at a report starts as many candidates, if there are as many. -/
theorem limit_stopAfter {count reports : Nat} (earlier : reports ≤ count) :
    (stopAfter count).limit (decide (count = reports)) reports items =
      min (count - reports) items.length := by
  induction items generalizing reports with
  | nil => simp [limit]
  | cons item rest ih =>
      by_cases reached : count = reports
      · simp [reached]
      · have next : (stopAfter count).stopsWith (reports + 1) item =
            decide (count = reports + 1) := by
          simp [stopsWith, stopAfter, Signals.none]
        have later : (stopAfter count).limit (decide (count = reports + 1)) (reports + 1) rest =
            min (count - (reports + 1)) rest.length := ih (by omega)
        simp only [limit, reached, decide_false, Bool.false_eq_true, if_false, next, later,
          List.length_cons]
        omega

/-- A run that is told to stop during a task ends with the first candidate that is such a task. -/
theorem limit_stopsDuring {reports : Nat}
    (first : ∀ other ∈ before, condition other.key = false) (met : condition item.key = true) :
    (stopsDuring condition).limit false reports (before ++ item :: rest) = before.length + 1 := by
  have stops (number : Nat) (other : WorkItem) :
      (stopsDuring condition).stopsWith number other = condition other.key := by
    simp [stopsWith, stopsDuring, Signals.none]
  induction before generalizing reports with
  | nil => simp [limit, stops, met]
  | cons other others ih =>
      have unmet := first other List.mem_cons_self
      have later : (stopsDuring condition).limit false (reports + 1) (others ++ item :: rest) =
          others.length + 1 := ih fun next nextMem => first next (List.mem_cons_of_mem _ nextMem)
      simp [limit, stops, unmet, later]

end Signals

section Prefix

variable {environment : Environment} {store : Store} {request : RunRequest} {options : RunOptions}

/-- A run that consumes a prefix of the candidates does nothing else. -/
theorem calculate_of_consumed {count : Nat}
    (accepted : RunOptions.ofName request.projectName = .ok options)
    (usable : UsableBatch environment request.batchSize) (opened : request.faults.cursor = none)
    (steady : (request.plan store options).Steady)
    (consumed : (request.plan store options).consumed environment request.batchSize =
      (store.collected.candidates options.project).take count) :
    let candidates := store.collected.candidates options.project
    let plan := request.plan store options
    (calculate environment store request).result =
        .ok { (RunSummary.start options.project).tally
            ((candidates.take count).map plan.outcomeOf) with
          cancelled := decide (count < candidates.length) } ∧
      (calculate environment store request).store =
        store.withLedger ((candidates.take count).foldl plan.write store.ledger) ∧
      (calculate environment store request).reports = min count candidates.length := by
  intro candidates plan
  have started : plan.startedFrom (.start plan store.ledger) candidates = candidates.take count :=
    (RunPlan.consumed_of_usable usable opened store.ledger).symm.trans consumed
  have left : (candidates.take count).length < candidates.length ↔ count < candidates.length := by
    rw [List.length_take]
    omega
  have summary : (plan.walked (.start plan store.ledger) candidates).summary =
      { (RunSummary.start options.project).tally
          ((candidates.take count).map plan.outcomeOf) with
        cancelled := decide (count < candidates.length) } := by
    rw [RunPlan.walked_summary rfl, started]
    simp only [left]
    rfl
  rcases calculate_of_usable accepted usable opened steady with ⟨returned, committed, reported⟩
  refine ⟨?_, ?_, ?_⟩
  · exact returned.trans (congrArg Except.ok summary)
  · rw [committed, RunPlan.walked_ledger, started]
    rfl
  · rw [reported, RunPlan.walked_reports, started, List.length_take]
    exact Nat.zero_add _

/-- A run that is told to stop at a report consumes as many candidates. -/
theorem consumed_stopAfter {count : Nat} (told : request.signals = .stopAfter count)
    (usable : UsableBatch environment request.batchSize)
    (opened : request.faults.cursor = none) :
    (request.plan store options).consumed environment request.batchSize =
      (store.collected.candidates options.project).take count := by
  have limited : (Signals.stopAfter count).limit (decide (count = 0)) 0
      (store.collected.candidates options.project) =
        min count (store.collected.candidates options.project).length :=
    Signals.limit_stopAfter (Nat.zero_le count)
  rw [RunPlan.consumed_of_usable usable opened []]
  simp only [RunPlan.startedFrom, RunState.start, RunRequest.plan, told]
  exact (congrArg (fun number => (store.collected.candidates options.project).take number)
    limited).trans List.take_eq_take_min.symm

theorem consumed_stopsDuring {condition : Int × String → Bool} {before rest : List WorkItem}
    {item : WorkItem} (told : request.signals = .stopsDuring condition)
    (usable : UsableBatch environment request.batchSize) (opened : request.faults.cursor = none)
    (split : store.collected.candidates options.project = before ++ item :: rest)
    (first : ∀ other ∈ before, condition other.key = false) (met : condition item.key = true) :
    (request.plan store options).consumed environment request.batchSize = before ++ [item] := by
  have limited : (Signals.stopsDuring condition).limit false 0 (before ++ item :: rest) =
      before.length + 1 := Signals.limit_stopsDuring first met
  have running : (Signals.stopsDuring condition).stopAtStart = false := rfl
  rw [RunPlan.consumed_of_usable usable opened []]
  simp only [RunPlan.startedFrom, RunState.start, RunRequest.plan, told, split, running, limited]
  rw [List.take_length_add_append]
  rfl

theorem calculate_stopAfter {count : Nat} (request : RunRequest)
    (told : request.signals = .stopAfter count)
    (accepted : RunOptions.ofName request.projectName = .ok options)
    (usable : UsableBatch environment request.batchSize)
    (storageOnly : request.faults.StorageOnly) :
    let candidates := store.collected.candidates options.project
    let plan := request.plan store options
    (calculate environment store request).result =
        .ok { (RunSummary.start options.project).tally
            ((candidates.take count).map plan.outcomeOf) with
          cancelled := decide (count < candidates.length) } ∧
      (calculate environment store request).store =
        store.withLedger ((candidates.take count).foldl plan.write store.ledger) ∧
      (calculate environment store request).reports = min count candidates.length := by
  have steady : (request.plan store options).Steady :=
    ⟨storageOnly.breakdown, fun number => by simp [RunRequest.plan, told, Signals.stopAfter,
      Signals.none]⟩
  exact calculate_of_consumed accepted usable storageOnly.cursor steady
    (consumed_stopAfter told usable storageOnly.cursor)

theorem calculate_unstopped (request : RunRequest) (told : request.signals = .none)
    (accepted : RunOptions.ofName request.projectName = .ok options)
    (usable : UsableBatch environment request.batchSize)
    (storageOnly : request.faults.StorageOnly) :
    (calculate environment store request).store =
      store.withLedger ((store.collected.candidates options.project).foldl
        (request.plan store options).write store.ledger) := by
  have steady : (request.plan store options).Steady :=
    ⟨storageOnly.breakdown, fun number => by simp [RunRequest.plan, told, Signals.none]⟩
  have consumed : (request.plan store options).consumed environment request.batchSize =
      (store.collected.candidates options.project).take
        (store.collected.candidates options.project).length :=
    (RunPlan.consumed_of_undisturbed usable storageOnly.cursor told).trans List.take_length.symm
  have left := (calculate_of_consumed accepted usable storageOnly.cursor steady consumed).2.1
  rw [List.take_length] at left
  exact left

theorem walked_stopping_of_last {plan : RunPlan} {state : RunState} {items before : List WorkItem}
    {item : WorkItem} (started : plan.startedFrom state items = before ++ [item])
    (met : plan.signals.stopDuring item.key = true) :
    (plan.walked state items).stopping = true := by
  rw [RunPlan.walked_stopping, started, List.foldl_append]
  simp [RunPlan.processed, Signals.stopsWith, met]

/-- A committing run whose caller is cancelled during a task learns it, and keeps what was done for
the candidates up to the first such task. -/
theorem calculateAndCommit_stopsDuring {condition : Int × String → Bool}
    {before rest : List WorkItem} {item : WorkItem} (request : RunRequest)
    (told : request.signals = .stopsDuring condition)
    (accepted : RunOptions.ofName request.projectName = .ok options)
    (usable : UsableBatch environment request.batchSize)
    (storageOnly : request.faults.StorageOnly)
    (split : store.collected.candidates options.project = before ++ item :: rest)
    (first : ∀ other ∈ before, condition other.key = false) (met : condition item.key = true) :
    (calculateAndCommit environment store request).result = .error .cancelled ∧
      (calculateAndCommit environment store request).store = store.withLedger
        ((before ++ [item]).foldl (request.plan store options).write store.ledger) := by
  have steady : (request.plan store options).Steady :=
    ⟨storageOnly.breakdown, fun number => by simp [RunRequest.plan, told, Signals.stopsDuring,
      Signals.none]⟩
  have consumed := consumed_stopsDuring told usable storageOnly.cursor split first met
  have started := (RunPlan.consumed_of_usable usable storageOnly.cursor store.ledger).symm.trans
    consumed
  have stopping := walked_stopping_of_last started
    (by simp [RunRequest.plan, told, Signals.stopsDuring, met])
  have returned := calculateAndCommit_of_usable accepted usable storageOnly.cursor steady
  rcases calculate_of_usable accepted usable storageOnly.cursor steady with ⟨_, committed, _⟩
  constructor
  · exact returned.trans (if_pos stopping)
  · rw [calculateAndCommit_store, committed, RunPlan.walked_ledger]
    exact congrArg (fun items => store.withLedger
      (items.foldl (request.plan store options).write store.ledger)) started

/-- A run that is told to stop processes a prefix of the candidates. If this happens at a report, it
processes as many candidates as it made reports, its summary counts their outcomes and says that it
was cancelled exactly if some were left, and their tasks have the records that an undisturbed run
leaves them. If the caller of a committing run is cancelled while it resolves a task, for which a
condition stands that this task is the first one to meet, the caller learns it, and the store is the
one of a run that is told to stop at the report about this task. -/
theorem stopped_run_processes_first_candidates (wellKeyed : store.WellKeyed)
    (accepted : RunOptions.ofName request.projectName = .ok options)
    (usable : UsableBatch environment request.batchSize)
    (storageOnly : request.faults.StorageOnly) :
    let candidates := store.collected.candidates options.project
    let told (signals : Signals) : RunRequest := { request with signals := signals }
    (∀ count : Nat,
      let stopped := calculate environment store (told (.stopAfter count))
      (∃ summary, stopped.result = .ok summary ∧
          summary = { (RunSummary.start options.project).tally
              ((candidates.take count).map (request.plan store options).outcomeOf) with
            cancelled := summary.cancelled } ∧
          summary.candidates = min count candidates.length ∧
            (summary.cancelled = true ↔ count < candidates.length)) ∧
        stopped.reports = min count candidates.length ∧
        stopped.store.collected = store.collected ∧
        ∀ task, stopped.store.ledger.recordsOf task =
          if task ∈ (candidates.take count).map (·.key) then
            (calculate environment store (told .none)).store.ledger.recordsOf task
          else store.ledger.recordsOf task) ∧
      ∀ (condition : Int × String → Bool) (before rest : List WorkItem) (item : WorkItem),
        candidates = before ++ item :: rest →
        (∀ other ∈ before, condition other.key = false) → condition item.key = true →
        let interrupted :=
          calculateAndCommit environment store (told (.stopsDuring condition))
        interrupted.result = .error .cancelled ∧
          interrupted.store =
            (calculate environment store (told (.stopAfter (before.length + 1)))).store := by
  intro candidates told
  -- What is written does not depend on the signals, so the plan of the request stands for all.
  have stoppedLeaves (count : Nat) :
      (calculate environment store (told (.stopAfter count))).store = store.withLedger
        ((candidates.take count).foldl (request.plan store options).write store.ledger) :=
    (calculate_stopAfter (told (.stopAfter count)) rfl accepted usable storageOnly).2.1
  constructor
  · intro count stopped
    have wholeLeaves : (calculate environment store (told .none)).store = store.withLedger
        (candidates.foldl (request.plan store options).write store.ledger) :=
      calculate_unstopped (told .none) rfl accepted usable storageOnly
    rcases calculate_stopAfter (told (.stopAfter count)) rfl accepted usable storageOnly with
      ⟨returned, left, reported⟩
    refine ⟨⟨_, returned, rfl, ?_, ?_⟩, reported, ?_, fun task => ?_⟩
    · simp only [RunSummary.tally_candidates, List.length_map, List.length_take]
      exact Nat.zero_add _
    · simp only [decide_eq_true_eq]
      exact Iff.rfl
    · rw [stoppedLeaves]
      rfl
    · rw [stoppedLeaves, wholeLeaves]
      exact RunPlan.recordsOf_foldl_write_take wellKeyed.ledger
        (Collected.nodup_candidates_key wellKeyed.workItems) count task
  · intro condition before rest item split first met interrupted
    rcases calculateAndCommit_stopsDuring (told (.stopsDuring condition)) rfl accepted usable
      storageOnly split first met with ⟨cancelled, left⟩
    refine ⟨cancelled, ?_⟩
    have taken : candidates.take (before.length + 1) = before ++ [item] := by
      rw [split, List.take_length_add_append]
      rfl
    rw [stoppedLeaves, taken]
    exact left

end Prefix

/-- Of a task under two connections the storage fails on the first one, with which a run ends that
is told to stop. -/
theorem stopped_twinRun_processes_first :
    (∃ summary,
      (calculate [] twinStore { twinRequest with signals := .stopAfter 1 }).result = .ok summary ∧
        summary.candidates = 1 ∧ summary.cancelled = true) ∧
      (calculateAndCommit [] twinStore
        { twinRequest with signals := .stopsDuring fun task => task.2 = "T" }).result =
          .error .cancelled := by
  have accepted : RunOptions.ofName twinRequest.projectName = .ok ⟨"project"⟩ := by decide
  have usable : UsableBatch [] twinRequest.batchSize := ⟨1, rfl, by decide, by decide⟩
  have storageOnly : twinRequest.faults.StorageOnly := ⟨rfl, fun _ => rfl⟩
  rcases stopped_run_processes_first_candidates wellKeyed_twinStore accepted usable storageOnly with
    ⟨atReport, during⟩
  simp only [candidates_twinStore] at atReport during
  constructor
  · rcases (atReport 1).1 with ⟨summary, returned, _, candidates, cancelled⟩
    exact ⟨summary, returned, candidates, cancelled.mpr (by decide)⟩
  · exact (during (fun task => task.2 = "T") [] [linkedTask 2 "T"] (linkedTask 1 "T") rfl
      (by simp) rfl).1

end DeliveryCycle
