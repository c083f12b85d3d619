import DeliveryCycle.Proofs.Run.Cancellation

/-!
# What a cancelled caller learns

The caller of a committing run is cancelled while the run works on a candidate. The run is told to
stop, and what is left of it is the candidate itself, its report, and, behind the last row, the
fetch of another batch. Each of these can fail, and then the caller learns of this failure, which
`Arrival.failure?` gives, and not that it was cancelled. A run that comes to the candidate is split
there by `walk_append`; `result_of_arrival` is what the caller of any such run learns.
-/

namespace DeliveryCycle

namespace RunState

variable {plan : RunPlan} {first last : RunState} {before rest : List WorkItem}
variable {item : WorkItem}

/-- A walk that ended without being told to stop went on after its first candidate. -/
theorem walk_of_walk_cons (ended : first.walk plan (item :: rest) = (last, none))
    (running : last.stopping = false) :
    (plan.processed first item).walk plan rest = (last, none) ∧
      ∀ others, first.walk plan (item :: others) = (plan.processed first item).walk plan others := by
  cases stopping : first.stopping with
  | true =>
      -- The walk would have left a state that is told to stop.
      simp only [walk, stopping, if_true, Prod.mk.injEq, and_true] at ended
      rw [← ended, stop_stopping, stopping] at running
      contradiction
  | false =>
      cases broken : plan.breakdown? item with
      | some error =>
          have failed : (first.walk plan (item :: rest)).2 = some error :=
            walk_of_broken stopping broken
          rw [ended] at failed
          contradiction
      | none =>
          simp only [walk_cons stopping broken] at ended ⊢
          split at ended
          · simp at ended
          · exact ⟨ended, fun _ => rfl⟩

/-- Such a walk processed all its candidates, and goes on with others. -/
theorem walk_append (ended : first.walk plan before = (last, none))
    (running : last.stopping = false) :
    last = before.foldl plan.processed first ∧
      ∀ others, first.walk plan (before ++ others) = last.walk plan others := by
  induction before generalizing first with
  | nil =>
      simp only [walk, Prod.mk.injEq, and_true] at ended
      exact ⟨ended.symm, fun others => by rw [ended, List.nil_append]⟩
  | cons item rest ih =>
      rcases walk_of_walk_cons ended running with ⟨later, goesOn⟩
      rcases ih later with ⟨processed, appended⟩
      exact ⟨processed, fun others => by rw [List.cons_append, goesOn, appended]⟩

end RunState

/-- A run comes to a candidate: the cursor hands it out, and no candidate before it broke the run
down or told it to stop. -/
structure RunPlan.Arrival (plan : RunPlan) (environment : Environment) (batchSize : Option Int)
    (ledger : Ledger) where
  before : List WorkItem
  item : WorkItem
  rest : List WorkItem
  /-- What comes in the place of the end of the rows. -/
  refused : Option BatchSizeTooLarge
  state : RunState
  fetched : plan.candidates environment batchSize = .ok ⟨before ++ item :: rest, refused⟩
  walked : (RunState.start plan ledger).walk plan before = (state, none)
  running : state.stopping = false

namespace RunPlan.Arrival

variable {plan : RunPlan} {environment : Environment} {batchSize : Option Int} {ledger : Ledger}

/-- How the rest of a run fails that is told to stop during the candidate. -/
def failure? (arrival : plan.Arrival environment batchSize ledger) : Option RunError :=
  match plan.breakdown? arrival.item,
    plan.signals.reportBreakdown (arrival.before.length + 1), arrival.rest, arrival.refused with
  | some error, _, _, _ => some (.breakdown error)
  | none, some error, _, _ => some (.breakdown error)
  | none, none, [], some error => some (.batchSizeTooLarge error)
  | none, none, _, _ => none

variable (arrival : plan.Arrival environment batchSize ledger)

theorem failure?_eq_none_iff :
    arrival.failure? = none ↔
      (plan.freshRecord? arrival.item = none ∨ plan.faults.breakdown arrival.item.key = none) ∧
        plan.signals.reportBreakdown (arrival.before.length + 1) = none ∧
        (arrival.rest = [] → arrival.refused = none) := by
  have unbroken : plan.breakdown? arrival.item = none ↔
      plan.freshRecord? arrival.item = none ∨ plan.faults.breakdown arrival.item.key = none := by
    unfold RunPlan.breakdown?
    cases plan.freshRecord? arrival.item <;> simp
  rw [← unbroken]
  unfold failure?
  cases plan.breakdown? arrival.item with
  | some error => simp
  | none =>
      cases plan.signals.reportBreakdown (arrival.before.length + 1) with
      | some error => simp
      | none => cases arrival.rest <;> cases arrival.refused <;> simp

theorem state_eq : arrival.state = arrival.before.foldl plan.processed (.start plan ledger) :=
  (RunState.walk_append arrival.walked arrival.running).1

theorem state_reports : arrival.state.reports = arrival.before.length := by
  rw [state_eq, RunPlan.foldl_processed_reports]
  exact Nat.zero_add _

theorem state_cancelled : arrival.state.summary.cancelled = false := by
  rw [state_eq, RunPlan.foldl_processed_summary, RunSummary.tally_cancelled]
  rfl

theorem walk_eq :
    (RunState.start plan ledger).walk plan (arrival.before ++ arrival.item :: arrival.rest) =
      arrival.state.walk plan (arrival.item :: arrival.rest) :=
  (RunState.walk_append arrival.walked arrival.running).2 _

theorem stopping_processed (told : plan.signals.stopDuring arrival.item.key = true) :
    (plan.processed arrival.state arrival.item).stopping = true := by
  simp [RunPlan.processed, Signals.stopsWith, told]

/-- A run that is told to stop during the candidate starts none of the rest. -/
theorem walk_rest (told : plan.signals.stopDuring arrival.item.key = true) :
    (plan.processed arrival.state arrival.item).walk plan arrival.rest =
      (if arrival.rest = [] then plan.processed arrival.state arrival.item
        else (plan.processed arrival.state arrival.item).stop, none) := by
  cases arrival.rest <;> simp [RunState.walk, arrival.stopping_processed told]

theorem run_result (told : plan.signals.stopDuring arrival.item.key = true) :
    match arrival.failure? with
    | some error => (plan.run environment batchSize ledger).result = .error error
    | none => (∃ summary, (plan.run environment batchSize ledger).result = .ok summary) ∧
        (plan.run environment batchSize ledger).stopping = true := by
  have split := arrival.walk_eq
  have rest := arrival.walk_rest told
  have goesOn : (plan.processed arrival.state arrival.item).summary.cancelled = false :=
    arrival.state_cancelled
  have stopping := arrival.stopping_processed told
  unfold failure? RunPlan.run
  simp only [arrival.fetched, split]
  -- What can fail comes in this order: the candidate, its report, the batch behind the last row.
  cases broken : plan.breakdown? arrival.item with
  | some error =>
      have failed : (arrival.state.walk plan (arrival.item :: arrival.rest)).2 = some error :=
        RunState.walk_of_broken arrival.running broken
      rcases walked : arrival.state.walk plan (arrival.item :: arrival.rest) with ⟨last, result⟩
      rw [walked] at failed
      simp only at failed
      simp [failed, RunState.finish]
  | none =>
      rw [RunState.walk_cons arrival.running broken, arrival.state_reports]
      cases reported : plan.signals.reportBreakdown (arrival.before.length + 1) with
      | some error => simp [RunState.finish]
      | none =>
          simp only [rest]
          cases last : arrival.rest with
          | nil =>
              cases refused : arrival.refused with
              | some error => simp [RunState.conclude, goesOn, RunState.finish]
              | none => simp [RunState.conclude_none, stopping]
          | cons next others =>
              simp [RunState.conclude, RunState.stop, RunState.logging, RunSummary.cancel,
                RunState.finish, stopping]

end RunPlan.Arrival

section Caller

variable {environment : Environment} {store : Store} {request : RunRequest} {options : RunOptions}

theorem result_of_arrival (accepted : RunOptions.ofName request.projectName = .ok options)
    (arrival : (request.plan store options).Arrival environment request.batchSize store.ledger)
    (told : request.signals.stopDuring arrival.item.key = true) :
    (calculateAndCommit environment store request).result =
      match arrival.failure? with
      | some error => .error (.failed error)
      | none => .error .cancelled := by
  have ended := arrival.run_result told
  simp only [calculateAndCommit, accepted, commitRun]
  cases failure : arrival.failure? with
  | some error =>
      rw [failure] at ended
      simp only at ended
      simp only [ended]
      rfl
  | none =>
      rw [failure] at ended
      rcases ended with ⟨⟨summary, returned⟩, stopping⟩
      simp [returned, stopping]

/-- Whether a caller that is cancelled while the run works on a candidate learns of it. It does
unless the candidate breaks the run down after its record was written, the listener breaks down at
its report, or the candidate is the last one and the batch behind it is refused; then the caller
learns of this failure. In no case the run seems to have ended normally. -/
theorem caller_learns_of_cancellation_iff
    (accepted : RunOptions.ofName request.projectName = .ok options)
    (arrival : (request.plan store options).Arrival environment request.batchSize store.ledger)
    (told : request.signals.stopDuring arrival.item.key = true) :
    let learned := (calculateAndCommit environment store request).result
    (learned = .error .cancelled ↔
      ((request.plan store options).freshRecord? arrival.item = none ∨
          request.faults.breakdown arrival.item.key = none) ∧
        request.signals.reportBreakdown (arrival.before.length + 1) = none ∧
        (arrival.rest = [] → arrival.refused = none)) ∧
      (learned = .error .cancelled ∨
        ∃ error, arrival.failure? = some error ∧ learned = .error (.failed error)) := by
  intro learned
  have learnedEq : learned = _ := result_of_arrival accepted arrival told
  have spared : arrival.failure? = none ↔
      ((request.plan store options).freshRecord? arrival.item = none ∨
          request.faults.breakdown arrival.item.key = none) ∧
        request.signals.reportBreakdown (arrival.before.length + 1) = none ∧
        (arrival.rest = [] → arrival.refused = none) := arrival.failure?_eq_none_iff
  rw [learnedEq, ← spared]
  cases arrival.failure? <;> simp

end Caller

/-- A run whose caller is cancelled during the task of one connection. -/
def interruptedTwin (faults : Faults) : RunRequest where
  projectName := "project"
  batchSize := some 1
  faults := { faults with cursor := .none }
  signals := .stopsDuring fun task => task = (1, "T")

theorem accepted_interruptedTwin (faults : Faults) :
    RunOptions.ofName (interruptedTwin faults).projectName = .ok ⟨"project"⟩ := by
  have accepted : RunOptions.ofName "project" = .ok ⟨"project"⟩ := by decide
  exact accepted

def twinArrival (faults : Faults) :
    ((interruptedTwin faults).plan twinStore ⟨"project"⟩).Arrival []
      (interruptedTwin faults).batchSize twinStore.ledger where
  before := []
  item := linkedTask 1 "T"
  rest := [linkedTask 2 "T"]
  refused := none
  state := .start ((interruptedTwin faults).plan twinStore ⟨"project"⟩) twinStore.ledger
  fetched := by
    have usable : UsableBatch [] (interruptedTwin faults).batchSize :=
      ⟨1, rfl, by decide, by decide⟩
    rw [RunPlan.candidates_of_usable usable rfl]
    exact congrArg (fun rows => Except.ok (Fetched.mk rows none)) candidates_twinStore
  walked := rfl
  running := rfl

/-- The caller learns of it, although the storage fails on the task. -/
theorem caller_of_interruptedTwin_learns :
    (calculateAndCommit [] twinStore (interruptedTwin twinRequest.faults)).result =
      .error .cancelled := by
  have accepted := accepted_interruptedTwin twinRequest.faults
  have learns := caller_learns_of_cancellation_iff accepted (twinArrival twinRequest.faults) rfl
  apply learns.1.mpr
  refine ⟨.inr rfl, rfl, ?_⟩
  intro last
  contradiction

def crashingFaults : Faults :=
  { Faults.none with breakdown := fun _ => some ⟨"injected crash"⟩ }

/-- Not every caller that is cancelled learns of it: here the task breaks the run down. -/
theorem not_forall_cancelled_callers_learn :
    ¬∀ (environment : Environment) (store : Store) (request : RunRequest) (options : RunOptions)
      (arrival : (request.plan store options).Arrival environment request.batchSize store.ledger),
      RunOptions.ofName request.projectName = .ok options →
        request.signals.stopDuring arrival.item.key = true →
          (calculateAndCommit environment store request).result = .error .cancelled := by
  intro always
  have accepted := accepted_interruptedTwin crashingFaults
  have broken : (twinArrival crashingFaults).failure? = some (.breakdown ⟨"injected crash"⟩) := by
    cbv
  have learned := always [] twinStore (interruptedTwin crashingFaults) ⟨"project"⟩
    (twinArrival crashingFaults) accepted rfl
  rw [result_of_arrival accepted (twinArrival crashingFaults) rfl, broken] at learned
  simp at learned

end DeliveryCycle
