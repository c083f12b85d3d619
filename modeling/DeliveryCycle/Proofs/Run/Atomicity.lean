import DeliveryCycle.Job.Pipeline
import DeliveryCycle.Proofs.Run.Completion
import DeliveryCycle.Run.Statements

/-!
# All of a run or nothing

A run that fails has already sent statements: the candidates before the failure were written, and
their savepoints were released. All of this is inside the one transaction of the session, and no
statement of a run commits it. `executeAll_statements` says what the session holds when the run has
ended in whatever way: everyone else still sees the store from before, the session sees the ledger
of the run, and no savepoint is left open.

`attempt_is_all_or_nothing` follows: an attempt leaves the store that it was defined to leave, a
failed one leaves the store from before, and so does one that is cut off after any of its
statements but the last.
-/

namespace DeliveryCycle

namespace RunPlan

variable {plan : RunPlan} {ledger : Ledger} {item : WorkItem}

/-- The work on a candidate has sent the statements that its ledger shows, however it ended. -/
theorem executeAll_writingStatements (session : Session) :
    session.executeAll (plan.writingStatements item) =
      session.changeLedger fun ledger =>
        (workOn plan.faults plan.collected plan.project ledger item).ledger := by
  unfold writingStatements sentRecord? workOn
  cases plan.faults.resolving item.key with
  | some failure => rfl
  | none =>
      cases plan.faults.overlooked item.key with
      | true => rfl
      | false =>
          simp only [Bool.false_eq_true, if_false, Option.isSome_none, Bool.or_self,
            Bool.false_or]
          cases (resolve .usual plan.collected plan.project item).correlation with
          | none =>
              rw [Option.map_none, ite_self]
              rfl
          | some correlation =>
              unfold writeRecord
              cases plan.faults.beforeWrite item.key with
              | some failure => rfl
              | none =>
                  cases plan.faults.afterWrite item.key with
                  | some failure => rfl
                  | none => cases plan.faults.breakdown item.key <;> rfl

/-- How the work on a candidate ends: it counts, or the storage failed and nothing is written, or
the run breaks down. -/
theorem workOn_cases (plan : RunPlan) (ledger : Ledger) (item : WorkItem) :
    let work := workOn plan.faults plan.collected plan.project ledger item
    (∃ outcome, work.result = .ok outcome ∧ plan.breakdown? item = none ∧
        plan.write ledger item = work.ledger) ∨
      (∃ failure, work.result = .error (.storage failure) ∧ plan.breakdown? item = none ∧
        plan.write ledger item = ledger) ∨
      ∃ error, work.result = .error (.breakdown error) ∧ plan.breakdown? item = some error := by
  intro work
  have processed := processCandidate_result plan ledger item
  have closed : (processCandidate plan.faults plan.collected plan.project ledger item).result =
      (work.close ledger item).result := rfl
  rw [closed, CandidateWork.close] at processed
  cases ended : work.result with
  | ok outcome =>
      rw [ended] at processed
      cases broken : plan.breakdown? item with
      | some error => simp [broken] at processed
      | none =>
          simp only [broken, Except.ok.injEq, Prod.mk.injEq] at processed
          exact .inl ⟨outcome, rfl, rfl, processed.2.symm⟩
  | error interruption =>
      rw [ended] at processed
      cases interruption with
      | storage failure =>
          cases broken : plan.breakdown? item with
          | some error => simp [broken] at processed
          | none =>
              simp only [broken, Except.ok.injEq, Prod.mk.injEq] at processed
              exact .inr (.inl ⟨failure, rfl, rfl, processed.2.symm⟩)
      | breakdown error =>
          cases broken : plan.breakdown? item with
          | none => simp [broken] at processed
          | some found =>
              simp only [broken, Except.error.injEq] at processed
              exact .inr (.inr ⟨error, rfl, by rw [processed]⟩)

/-- The statements for a candidate write its record, or nothing at all if they were undone. The
savepoints from before are open again. -/
theorem executeAll_candidateStatements (session : Session) :
    session.executeAll (plan.candidateStatements session.current.ledger item) =
      session.changeLedger fun ledger =>
        match plan.breakdown? item with
        | some _ => ledger
        | none => plan.write ledger item := by
  simp only [candidateStatements, Session.executeAll_cons, Session.executeAll_append,
    executeAll_writingStatements, Session.executeAll_nil, closingStatement]
  rcases workOn_cases plan session.current.ledger item with
    ⟨outcome, ended, unbroken, written⟩ | ⟨failure, ended, unbroken, written⟩ |
      ⟨error, ended, broken⟩
  · rw [ended, unbroken]
    simp only [Session.execute, Session.changeLedger, List.tail_cons, written]
  · rw [ended, unbroken]
    simp only [Session.execute, Session.changeLedger, List.tail_cons, List.headD_cons, written]
  · rw [ended, broken]
    rfl

/-- The work on a candidate never commits. -/
theorem commit_not_mem_candidateStatements :
    Statement.commit ∉ plan.candidateStatements ledger item := by
  have writing : Statement.commit ∉ plan.writingStatements item := by
    unfold writingStatements
    cases plan.sentRecord? item <;> simp
  have closing : Statement.commit ≠ plan.closingStatement ledger item := by
    unfold closingStatement
    split <;> simp
  simp [candidateStatements, writing, closing]

end RunPlan

namespace RunState

variable {plan : RunPlan} {state : RunState} {item : WorkItem} {items : List WorkItem}

theorem advance_ledger_of_broken (state : RunState) {error : Breakdown}
    (broken : plan.breakdown? item = some error) :
    (state.advance plan item).1.ledger = state.ledger := by
  simp [advance, logging, RunPlan.processCandidate_result, broken]

theorem walkStatements_of_broken (rest : List WorkItem) {error : Breakdown}
    (running : state.stopping = false) (broken : plan.breakdown? item = some error) :
    state.walkStatements plan (item :: rest) = plan.candidateStatements state.ledger item ∧
      (state.walk plan (item :: rest)).1.ledger = state.ledger := by
  have failed : (state.advance plan item).2 = .error error := advance_of_broken broken
  have kept := advance_ledger_of_broken state broken
  rcases advanced : state.advance plan item with ⟨worked, result⟩
  rw [advanced] at failed kept
  simp only at failed kept
  simp [walkStatements, walk, running, advanced, failed, kept]

theorem walkStatements_cons {rest : List WorkItem} (running : state.stopping = false)
    (unbroken : plan.breakdown? item = none) :
    state.walkStatements plan (item :: rest) =
      plan.candidateStatements state.ledger item ++
        match plan.signals.reportBreakdown (state.reports + 1) with
        | some _ => []
        | none => (plan.processed state item).walkStatements plan rest := by
  have reported := report_of_unbroken state unbroken
  simp only [walkStatements, running, Bool.false_eq_true, if_false,
    advance_of_unbroken unbroken] at reported ⊢
  rw [reported]
  cases plan.signals.reportBreakdown (state.reports + 1) <;> rfl

/-- A session in which a walk sends its statements holds the ledger of the walk, wherever the walk
ends. -/
theorem executeAll_walkStatements {session : Session}
    (same : session.current.ledger = state.ledger) :
    session.executeAll (state.walkStatements plan items) =
      session.changeLedger fun _ => (state.walk plan items).1.ledger := by
  induction items generalizing state session with
  | nil => simp only [walkStatements, walk, ← same]; rfl
  | cons item rest ih =>
      cases stopping : state.stopping with
      | true => simp only [walkStatements, walk, stopping, if_true, stop_ledger, ← same]; rfl
      | false =>
          cases broken : plan.breakdown? item with
          | some error =>
              rcases walkStatements_of_broken rest stopping broken with ⟨sent, kept⟩
              rw [sent, kept, ← same, RunPlan.executeAll_candidateStatements, broken]
              rfl
          | none =>
              rw [walkStatements_cons stopping broken, walk_cons stopping broken, ← same,
                Session.executeAll_append, RunPlan.executeAll_candidateStatements, broken]
              cases plan.signals.reportBreakdown (state.reports + 1) with
              | some error => simp only [RunPlan.processed, ← same]; rfl
              | none =>
                  dsimp only
                  rw [ih]
                  · rfl
                  · simp only [RunPlan.processed, ← same]; rfl

theorem commit_not_mem_walkStatements : Statement.commit ∉ state.walkStatements plan items := by
  induction items generalizing state with
  | nil => exact List.not_mem_nil
  | cons item rest ih =>
      cases stopping : state.stopping with
      | true => simp [walkStatements, stopping]
      | false =>
          cases broken : plan.breakdown? item with
          | some error =>
              rw [(walkStatements_of_broken rest stopping broken).1]
              exact RunPlan.commit_not_mem_candidateStatements
          | none =>
              rw [walkStatements_cons stopping broken]
              intro sent
              rcases List.mem_append.mp sent with fromCandidate | fromRest
              · exact RunPlan.commit_not_mem_candidateStatements fromCandidate
              · split at fromRest
                · contradiction
                · exact ih fromRest

@[simp]
theorem conclude_ledger (state : RunState) (failure : Option BatchSizeTooLarge) :
    (state.conclude failure).ledger = state.ledger := by
  unfold conclude
  split <;> rfl

end RunState

namespace RunPlan

variable {plan : RunPlan} {environment : Environment} {batchSize : Option Int} {ledger : Ledger}

/-- A run never commits. -/
theorem commit_not_mem_statements :
    Statement.commit ∉ plan.statements environment batchSize ledger := by
  unfold statements
  cases plan.candidates environment batchSize with
  | error error => exact List.not_mem_nil
  | ok candidates => exact RunState.commit_not_mem_walkStatements

/-- What the session of a run holds at the end of the run, whatever this end is. -/
theorem executeAll_statements (plan : RunPlan) (environment : Environment)
    (batchSize : Option Int) (store : Store) :
    (Session.onStore store).executeAll (plan.statements environment batchSize store.ledger) =
      ⟨store, store.withLedger (plan.run environment batchSize store.ledger).ledger, []⟩ := by
  unfold statements run
  cases plan.candidates environment batchSize with
  | error error => rfl
  | ok candidates =>
      have same : (Session.onStore store).current.ledger =
          (RunState.start plan store.ledger).ledger := rfl
      dsimp only
      rw [RunState.executeAll_walkStatements same]
      rcases (RunState.start plan store.ledger).walk plan candidates.rows with ⟨last, breakdown⟩
      cases breakdown with
      | some error => rfl
      | none => simp only [RunState.conclude_ledger]; rfl

end RunPlan

namespace RunRequest

variable {request : RunRequest} {environment : Environment} {store : Store} {options : RunOptions}

/-- Only the last statement of a run and of whoever started it may be a commit. -/
theorem commit_not_mem_of_cut {cut : List Statement}
    (before : cut <+: request.statements environment store options)
    (proper : cut ≠ request.statements environment store options) : .commit ∉ cut := by
  have sent : cut <+: (request.plan store options).statements environment request.batchSize
      store.ledger := by
    unfold statements at before proper
    dsimp only at before proper
    split at before
    · simpa using before
    · rename_i returned
      rw [returned] at proper
      exact (List.prefix_concat_iff.mp before).resolve_left proper
  exact fun committed => RunPlan.commit_not_mem_statements (sent.subset committed)

end RunRequest

namespace Attempt

/-- The statements of an attempt; an attempt whose project is refused sends none. -/
def statements (attempt : Attempt) (store : Store) : List Statement :=
  match RunOptions.ofName attempt.request.projectName with
  | .error _ => []
  | .ok options => attempt.request.statements attempt.environment store options

variable {attempt : Attempt} {store : Store}

theorem commit_not_mem_of_cut {cut : List Statement} (before : cut <+: attempt.statements store)
    (proper : cut ≠ attempt.statements store) : .commit ∉ cut := by
  unfold statements at before proper
  cases accepted : RunOptions.ofName attempt.request.projectName with
  | error issue => simp_all
  | ok options =>
      simp only [accepted] at before proper
      exact RunRequest.commit_not_mem_of_cut before proper

/-- A session that sends the statements of an attempt leaves the store of the attempt. -/
theorem close_executeAll_statements (attempt : Attempt) (store : Store) :
    ((Session.onStore store).executeAll (attempt.statements store)).close =
      (attempt.perform store).store := by
  rw [perform_store]
  unfold statements calculate
  cases RunOptions.ofName attempt.request.projectName with
  | error issue => rfl
  | ok options =>
      simp only [RunRequest.statements, Session.executeAll_append, RunPlan.executeAll_statements]
      cases ((attempt.request.plan store options).run attempt.environment
        attempt.request.batchSize store.ledger).result <;> rfl

/-- A failed attempt leaves the store from before. -/
theorem perform_store_of_failed {error : RunError}
    (failed : (attempt.perform store).result = .error (.failed error)) :
    (attempt.perform store).store = store := by
  unfold perform at failed ⊢
  split at failed
  · rename_i keeps
    rw [if_pos keeps]
    unfold calculateAndCommit at failed ⊢
    cases accepted : RunOptions.ofName attempt.request.projectName with
    | error issue => rfl
    | ok options =>
        rw [accepted] at failed
        exact commitRun_store_of_failed failed
  · rename_i drops
    rw [if_neg drops]
    exact calculate_store_of_failed failed

end Attempt

/-- The job that calculates the cycle times of a project leaves the store from before, unless it
returns or its caller was cancelled. -/
theorem Job.calculateCycleTime_store_of_failed {surroundings : Job.Surroundings} {store : Store}
    {project : Json} {error : Job.JobError} (uncancelled : error ≠ .run .cancelled)
    (failed : (Job.calculateCycleTime surroundings store project).result = .error error) :
    (Job.calculateCycleTime surroundings store project).store = store := by
  unfold Job.calculateCycleTime at failed ⊢
  cases accepted : RunOptions.ofJson (.object [(projectField, project)]) with
  | error issue => rfl
  | ok options =>
      simp only [accepted] at failed ⊢
      cases ended : (commitRun surroundings.environment store
          ⟨options.project, none, surroundings.faults, surroundings.signals⟩ options).result with
      | ok summary => simp [ended] at failed
      | error cause =>
          simp only [ended, Except.error.injEq] at failed ⊢
          cases cause with
          | cancelled => exact absurd failed.symm uncancelled
          | failed reason => exact commitRun_store_of_failed ended

/-- All of a run or nothing. The statements of an attempt leave the store that the attempt was
defined to leave. An attempt that fails, before its first candidate or after any number of them were
written, leaves the store from before, and so does one that is cut off after any of its statements
but the last. A run alone commits nothing, whatever its end: its session shows the ledger of the run
to nobody else. The job that runs a project of any name leaves the store from before as well, unless
it returns or its caller was cancelled. -/
theorem attempt_is_all_or_nothing (attempt : Attempt) (store : Store) :
    let session := Session.onStore store
    (session.executeAll (attempt.statements store)).close = (attempt.perform store).store ∧
      (∀ error, (attempt.perform store).result = .error (.failed error) →
        (session.executeAll (attempt.statements store)).close = store) ∧
      (∀ cut, cut <+: attempt.statements store → cut ≠ attempt.statements store →
        (session.executeAll cut).close = store) ∧
      (∀ plan : RunPlan, ∀ environment batchSize,
        let ended := session.executeAll (plan.statements environment batchSize store.ledger)
        ended.current = store.withLedger (plan.run environment batchSize store.ledger).ledger ∧
          ended.close = store) ∧
      ∀ surroundings project error, error ≠ .run .cancelled →
        (Job.calculateCycleTime surroundings store project).result = .error error →
          (Job.calculateCycleTime surroundings store project).store = store := by
  intro session
  refine ⟨attempt.close_executeAll_statements store, ?_, ?_, ?_, ?_⟩
  · intro error failed
    rw [attempt.close_executeAll_statements store]
    exact Attempt.perform_store_of_failed failed
  · intro cut before proper
    have uncommitted : Statement.commit ∉ cut := Attempt.commit_not_mem_of_cut before proper
    exact Session.executeAll_committed _ uncommitted
  · intro plan environment batchSize
    rw [plan.executeAll_statements environment batchSize store]
    exact ⟨rfl, rfl⟩
  · intro surroundings project error uncancelled failed
    exact Job.calculateCycleTime_store_of_failed uncancelled failed

/-- An attempt whose caller is cancelled during the first task; when the first report is due, this
task is written, and the listener breaks down. -/
def brokenRequest : RunRequest :=
  { twinRequest with
    faults := .none
    signals := { Signals.none with
      stopDuring := fun task => task = (1, "T")
      reportBreakdown := fun number => if number = 1 then some ⟨"lost"⟩ else none } }

/-- The session of this attempt has opened a savepoint, written a record and released the savepoint
when the attempt fails. -/
theorem brokenRequest_is_all_or_nothing :
    let attempt : Attempt := ⟨[], brokenRequest, true⟩
    (attempt.perform twinStore).result = .error (.failed (.breakdown ⟨"lost"⟩)) ∧
      (attempt.statements twinStore).length = 4 ∧
      ((Session.onStore twinStore).executeAll (attempt.statements twinStore)).close =
        twinStore := by
  intro attempt
  let plan := brokenRequest.plan twinStore ⟨"project"⟩
  have accepted : RunOptions.ofName attempt.request.projectName = .ok ⟨"project"⟩ := by decide
  have usable : UsableBatch [] brokenRequest.batchSize := ⟨1, rfl, by decide, by decide⟩
  have candidates : plan.candidates [] brokenRequest.batchSize =
      .ok ⟨[linkedTask 1 "T", linkedTask 2 "T"], none⟩ := by
    rw [RunPlan.candidates_of_usable usable rfl, ← candidates_twinStore]
    rfl
  have unbroken : plan.breakdown? (linkedTask 1 "T") = none := by
    unfold RunPlan.breakdown?
    cases plan.freshRecord? (linkedTask 1 "T") <;> rfl
  have ended : (plan.run [] brokenRequest.batchSize twinStore.ledger).result =
      .error (.breakdown ⟨"lost"⟩) := by
    rw [RunPlan.run, candidates]
    dsimp only
    rw [RunState.walk_cons rfl unbroken]
    rfl
  have failed : (attempt.perform twinStore).result = .error (.failed (.breakdown ⟨"lost"⟩)) := by
    rw [Attempt.perform_result accepted, ended]
  have sent : attempt.statements twinStore =
      plan.candidateStatements twinStore.ledger (linkedTask 1 "T") := by
    simp only [Attempt.statements, accepted, RunRequest.statements]
    rw [ended, RunPlan.statements, candidates]
    dsimp only
    rw [RunState.walkStatements_cons rfl unbroken]
    exact (List.append_nil _).trans (List.append_nil _)
  have written : (plan.writingStatements (linkedTask 1 "T")).length = 2 := by cbv
  refine ⟨failed, ?_, (attempt_is_all_or_nothing attempt twinStore).2.1 _ failed⟩
  simp [sent, RunPlan.candidateStatements, written]

end DeliveryCycle
