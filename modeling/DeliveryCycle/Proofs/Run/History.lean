import DeliveryCycle.Proofs.Run.Supervision

/-!
# Histories that end

Left to itself, a run comes to its end, and so does its caller. A history without requests ends as
`commitRun` says, so that a run in turns is the same run.
-/

namespace DeliveryCycle

namespace Supervised

variable {plan : RunPlan} {state : Supervised}

section Turns

variable {item : WorkItem} {statement : Statement} {later : List Statement}
variable {rest : Fetched WorkItem}

theorem takeRun_of_calm (calm : state.interrupted = false) (running : state.IsRunning) :
    state.takeRun plan = state.advanceRun plan := by
  unfold takeRun
  split
  · rename_i ended
    exact absurd ended (running _)
  · rename_i told _
    simp [calm] at told
  · rfl

/-- What the run waited for no longer matters when it has closed the savepoint of a candidate. -/
theorem closeCandidate_congr {other : Supervised}
    (same : other = { state with phase := other.phase }) :
    other.closeCandidate plan item rest = state.closeCandidate plan item rest := by
  generalize other.phase = phase at same
  subst same
  unfold closeCandidate
  dsimp only
  split
  · rfl
  · split <;> rfl

/-- Turn by turn the run sends the statements that are left for a candidate. -/
theorem after_working (plan : RunPlan) (calm : state.interrupted = false)
    (waits : state.phase = .working item statement later rest) :
    state.after plan (List.replicate (later.length + 1) .run) =
      { state with session := state.session.executeAll (statement :: later) }.closeCandidate plan
        item rest := by
  induction later generalizing state statement with
  | nil =>
      have running : state.IsRunning := isRunning_of_eq waits (by simp)
      simp only [List.length_nil, List.replicate_succ, List.replicate_zero, after_cons, after_nil,
        take, takeRun_of_calm calm running, advanceRun, waits]
      rfl
  | cons following others ih =>
      have running : state.IsRunning := isRunning_of_eq waits (by simp)
      have reached : state.takeRun plan =
          { state with
            session := state.session.execute statement
            phase := .working item following others rest } := by
        simp only [takeRun_of_calm calm running, advanceRun, waits]
      have calmNext : (state.takeRun plan).interrupted = false := by rw [reached]; exact calm
      have waitsNext : (state.takeRun plan).phase = .working item following others rest := by
        rw [reached]
      calc
        state.after plan (List.replicate ((following :: others).length + 1) .run) =
            (state.takeRun plan).after plan (List.replicate (others.length + 1) .run) := rfl
        _ = _ := ih calmNext waitsNext
        _ = _ := by
          rw [reached]
          exact closeCandidate_congr rfl

/-- In as many turns as it has statements for it, the run works on the next candidate. -/
theorem after_begun {rows : List WorkItem} {failure : Option BatchSizeTooLarge} (plan : RunPlan)
    (calm : state.interrupted = false) (waits : state.phase = .fetching ⟨item :: rows, failure⟩)
    (goesOn : state.run.stopping = false) :
    state.after plan (List.replicate ((plan.writingStatements item).length + 3) .run) =
      { state with
        session := state.session.executeAll (plan.candidateStatements state.run.ledger item)
      }.closeCandidate plan item ⟨rows, failure⟩ := by
  let later := plan.writingStatements item ++ [plan.closingStatement state.run.ledger item]
  have running : state.IsRunning := isRunning_of_eq waits (by simp)
  have begun : state.takeRun plan =
      { state with phase := .working item .savepoint later ⟨rows, failure⟩ } := by
    simp [takeRun_of_calm calm running, advanceRun, waits, goesOn, later]
  have calmNext : (state.takeRun plan).interrupted = false := by rw [begun]; exact calm
  have waitsNext : (state.takeRun plan).phase = .working item .savepoint later ⟨rows, failure⟩ := by
    rw [begun]
  have length : later.length = (plan.writingStatements item).length + 1 := by simp [later]
  calc
    state.after plan (List.replicate ((plan.writingStatements item).length + 3) .run) =
        (state.takeRun plan).after plan (List.replicate (later.length + 1) .run) := by
      rw [length]
      rfl
    _ = _ := after_working plan calmNext waitsNext
    _ = _ := by
      rw [begun]
      exact closeCandidate_congr rfl

theorem closeCandidate_of_steady (steady : plan.Steady) :
    state.closeCandidate plan item rest =
      { state with run := plan.processed state.run item, phase := .fetching rest } := by
  have unbroken := steady.breakdown?_eq_none item
  have reported := RunState.report_of_unbroken state.run unbroken
  unfold closeCandidate
  simp only [RunState.advance_of_unbroken unbroken, steady.reports] at reported ⊢
  rw [reported]

/-- The result of a run that goes on with the rows that are left. -/
def outcome (plan : RunPlan) (run : RunState) (rest : Fetched WorkItem) : RunResult :=
  match run.walk plan rest.rows with
  | (last, some error) => last.finish (.error (.breakdown error))
  | (last, none) => last.conclude rest.failure

/-- A state in which the run has ended with a result, and nothing else has happened. -/
structure EndedWith (state : Supervised) (result : RunResult) (final : Supervised) : Prop where
  phase : final.phase = .ended (result.result.mapError .failed)
  ledger : final.run.ledger = result.ledger
  reports : final.run.reports = result.reports
  log : final.run.log = result.log
  caller : final.caller = state.caller
  requested : final.requested = state.requested

theorem endedWith_finish {sent : Supervised} {result : RunResult} {last : RunState}
    {error : RunError} (failed : result = last.finish (.error error))
    (sameCaller : sent.caller = state.caller) (sameRequests : sent.requested = state.requested) :
    EndedWith state result (sent.endRun last (last.finish (.error error))) := by
  subst failed
  exact ⟨rfl, rfl, rfl, rfl, sameCaller, sameRequests⟩

theorem endedWith_conclude (last : RunState) (failure : Option BatchSizeTooLarge) :
    EndedWith state (last.conclude failure) (state.endRun last (last.conclude failure)) := by
  have sameReports : (last.conclude failure).reports = last.reports := by
    unfold RunState.conclude
    split <;> rfl
  exact ⟨rfl, (last.conclude_ledger failure).symm, sameReports.symm, rfl, rfl, rfl⟩

/-- If no one interrupts it, the run comes to its end in some number of turns. -/
theorem after_fetching (plan : RunPlan) (calm : state.interrupted = false)
    (waits : state.phase = .fetching rest) :
    ∃ count, state.EndedWith (outcome plan state.run rest)
      (state.after plan (List.replicate count .run)) := by
  rcases rest with ⟨rows, failure⟩
  have running : state.IsRunning := isRunning_of_eq waits (by simp)
  induction rows generalizing state with
  | nil =>
      refine ⟨1, ?_⟩
      simp only [List.replicate_succ, List.replicate_zero, after_cons, after_nil, take,
        takeRun_of_calm calm running, advanceRun, waits]
      exact endedWith_conclude state.run failure
  | cons item rows ih =>
      cases stopping : state.run.stopping with
      | true =>
          refine ⟨1, ?_⟩
          simp only [List.replicate_succ, List.replicate_zero, after_cons, after_nil, take,
            takeRun_of_calm calm running, advanceRun, waits, stopping, if_true, outcome,
            RunState.walk]
          exact endedWith_conclude state.run.stop failure
      | false =>
          have closed := after_begun plan calm waits stopping
          let sent : Supervised :=
            { state with
              session := state.session.executeAll (plan.candidateStatements state.run.ledger item) }
          change _ = sent.closeCandidate plan item ⟨rows, failure⟩ at closed
          generalize (plan.writingStatements item).length + 3 = turns at closed
          unfold closeCandidate at closed
          rcases advanced : state.run.advance plan item with ⟨next, error | _⟩
          · have advancedSent : sent.run.advance plan item = (next, .error error) := advanced
            simp only [advancedSent] at closed
            refine ⟨turns, closed ▸ endedWith_finish ?_ rfl rfl⟩
            simp [outcome, RunState.walk, stopping, advanced]
          · have advancedSent : sent.run.advance plan item = (next, .ok ()) := advanced
            simp only [advancedSent] at closed
            rcases reported : next.report plan.signals with ⟨last, error | error⟩
            · simp only [reported] at closed
              let following : Supervised :=
                { sent with run := last, phase := .fetching ⟨rows, failure⟩ }
              have running : following.IsRunning := isRunning_of_eq rfl (by simp)
              rcases @ih following calm rfl running with ⟨count, ended⟩
              refine ⟨turns + count, ?_⟩
              rw [List.replicate_add, after_append, closed]
              have sameOutcome : outcome plan state.run ⟨item :: rows, failure⟩ =
                  outcome plan last ⟨rows, failure⟩ := by
                simp [outcome, RunState.walk, stopping, advanced, reported]
              rw [sameOutcome]
              exact ⟨ended.phase, ended.ledger, ended.reports, ended.log, ended.caller,
                ended.requested⟩
            · simp only [reported] at closed
              refine ⟨turns, closed ▸ endedWith_finish ?_ rfl rfl⟩
              simp [outcome, RunState.walk, stopping, advanced, reported]

theorem exists_run_end_of_fetching (plan : RunPlan) (calm : state.interrupted = false)
    (waits : state.phase = .fetching rest) :
    ∃ count result, (state.after plan (List.replicate count .run)).phase = .ended result := by
  rcases after_fetching plan calm waits with ⟨count, ended⟩
  exact ⟨count, _, ended.phase⟩

/-- Wherever it is, a run comes to its end in some number of turns. -/
theorem exists_run_end (plan : RunPlan) (state : Supervised) :
    ∃ count result, (state.after plan (List.replicate count .run)).phase = .ended result := by
  have next {first : Nat} (reached : ∃ count result,
      ((state.after plan (List.replicate first .run)).after plan
        (List.replicate count .run)).phase = .ended result) :
      ∃ count result, (state.after plan (List.replicate count .run)).phase = .ended result := by
    rcases reached with ⟨count, result, ended⟩
    refine ⟨first + count, result, ?_⟩
    rw [List.replicate_add, after_append]
    exact ended
  cases told : state.interrupted with
  | true =>
      cases phase : state.phase with
      | ended result => exact ⟨0, result, phase⟩
      | opening | fetching | working =>
          refine ⟨1, .error .cancelled, ?_⟩
          simp [take, takeRun, phase, told]
  | false =>
      cases phase : state.phase with
      | ended result => exact ⟨0, result, phase⟩
      | fetching rest => exact exists_run_end_of_fetching plan told phase
      | opening found =>
          have running : state.IsRunning := isRunning_of_eq phase (by simp)
          apply @next 1
          simp only [List.replicate_succ, List.replicate_zero, after_cons, after_nil, take,
            takeRun_of_calm told running, advanceRun, phase]
          cases found with
          | error error => exact ⟨0, _, rfl⟩
          | ok found =>
              let opened : Supervised := { state with phase := .fetching found }
              exact @exists_run_end_of_fetching opened found plan told rfl
      | working item statement later rest =>
          apply next
          rw [after_working plan told phase]
          let sent : Supervised :=
            { state with session := state.session.executeAll (statement :: later) }
          change ∃ count result, ((sent.closeCandidate plan item rest).after plan
            (List.replicate count .run)).phase = .ended result
          unfold closeCandidate
          split
          · exact ⟨0, _, rfl⟩
          · split
            · exact ⟨0, _, rfl⟩
            · rename_i run _
              let closed : Supervised := { sent with run := run, phase := .fetching rest }
              exact @exists_run_end_of_fetching closed rest plan told rfl

/-- The caller of a run that has ended ends as soon as its commit, if it has one, is carried out. -/
theorem exists_caller_end {result : Except CommitError RunSummary}
    (ended : state.phase = .ended result) :
    ∃ result, (state.after plan [.caller, .database, .caller]).caller = .ended result := by
  rcases state with ⟨session, run, phase, interrupted, caller, requested, commitSent⟩
  subst ended
  cases caller with
  | ended known => exact ⟨known, by cases commitSent <;> rfl⟩
  | shielded | draining =>
      cases requested <;> cases result <;> cases commitSent <;> exact ⟨_, rfl⟩
  | committing summary cancelled =>
      cases requested <;> cases commitSent <;> cases cancelled <;> exact ⟨_, rfl⟩

/-- A caller ends sooner or later if no more requests come. -/
theorem exists_end (plan : RunPlan) (state : Supervised) :
    ∃ turns, .request ∉ turns ∧ ∃ result, (state.after plan turns).caller = .ended result := by
  rcases exists_run_end plan state with ⟨count, result, ended⟩
  rcases @exists_caller_end plan _ result ended with ⟨last, callerEnded⟩
  refine ⟨List.replicate count .run ++ [.caller, .database, .caller], by simp, last, ?_⟩
  rw [after_append]
  exact callerEnded

/-- Left to itself, a run ends with the result that it was defined to have. -/
theorem start_endedWith_run (plan : RunPlan) (environment : Environment) (batchSize : Option Int)
    (store : Store) :
    let state := start plan environment batchSize store
    ∃ count, state.EndedWith (plan.run environment batchSize store.ledger)
      (state.after plan (List.replicate count .run)) := by
  intro state
  have calm : state.interrupted = false := rfl
  have waits : state.phase = .opening (plan.candidates environment batchSize) := rfl
  have running : state.IsRunning := isRunning_of_eq waits (by simp)
  unfold RunPlan.run
  cases opened : plan.candidates environment batchSize with
  | error error =>
      refine ⟨1, ?_⟩
      rw [opened] at waits
      simp only [List.replicate_succ, List.replicate_zero, after_cons, after_nil, take,
        takeRun_of_calm calm running, advanceRun, waits]
      exact endedWith_finish rfl rfl rfl
  | ok found =>
      rw [opened] at waits
      have reached : state.takeRun plan = { state with phase := .fetching found } := by
        simp only [takeRun_of_calm calm running, advanceRun, waits]
      have waitsNext : (state.takeRun plan).phase = .fetching found := by rw [reached]
      have calmNext : (state.takeRun plan).interrupted = false := by rw [reached]; exact calm
      rcases after_fetching plan calmNext waitsNext with ⟨count, ended⟩
      refine ⟨count + 1, ?_⟩
      rw [List.replicate_succ, after_cons]
      rw [reached] at ended
      have onRows : (state.take plan .run) = { state with phase := .fetching found } := reached
      rw [onRows]
      exact ⟨ended.phase, ended.ledger, ended.reports, ended.log, ended.caller, ended.requested⟩

end Turns

end Supervised

namespace RunRequest

theorem not_stops_unstopped (request : RunRequest) : ¬request.unstopped.signals.Stops :=
  Signals.not_stops_none

end RunRequest

theorem RunPlan.run_stopping {plan : RunPlan} {environment : Environment} {batchSize : Option Int}
    {ledger : Ledger} {summary : RunSummary} (goesOn : ¬plan.signals.Stops)
    (returned : (plan.run environment batchSize ledger).result = .ok summary) :
    (plan.run environment batchSize ledger).stopping = false := by
  have never := Signals.stopsWith_of_not_stops goesOn
  rw [run_of_returned returned, RunState.complete_stopping, walked_stopping,
    foldl_processed_stopping never]
  exact Signals.stopAtStart_of_not_stops goesOn

/-- A run that no one cancels has a history, and at its end is what it was defined to be. -/
theorem exists_history_of_commitRun (environment : Environment) (store : Store)
    (request : RunRequest) (options : RunOptions) :
    let plan := request.unstopped.plan store options
    ∃ turns, .request ∉ turns ∧
      let final := (Supervised.start plan environment request.batchSize store).after plan turns
      ∃ result, final.caller = .ended result ∧
        commitRun environment store request.unstopped options =
          ⟨result, final.session.close, final.run.reports, final.run.log⟩ := by
  intro plan
  rcases Supervised.start_endedWith_run plan environment request.batchSize store with
    ⟨count, ended⟩
  have sound := Supervised.sound_after plan environment request.batchSize store
  let turns : List Supervised.Turn := List.replicate count .run ++ [.caller, .database, .caller]
  have soundFinal := (sound turns).caller
  have unsent := (sound (List.replicate count .run)).caller
  refine ⟨turns, by simp [turns], ?_⟩
  simp only [turns, Supervised.after_append] at soundFinal ⊢
  generalize (Supervised.start plan environment request.batchSize store).after plan
    (List.replicate count .run) = state at *
  have shielded : state.caller = .shielded := ended.caller
  have calm : state.requested = false := ended.requested
  simp only [Supervised.CallerSound, shielded] at unsent
  have phase := ended.phase
  have sameRun : (request.unstopped.plan store options).run environment
      request.unstopped.batchSize store.ledger =
        plan.run environment request.batchSize store.ledger := rfl
  unfold commitRun
  rw [sameRun]
  cases result : (plan.run environment request.batchSize store.ledger).result with
  | error error =>
      rw [result] at phase
      have reached : state.after plan [.caller, .database, .caller] =
          { state with caller := .ended (.error (.failed error)) } := by
        simp [Supervised.take, Supervised.takeCaller, Supervised.receive, Supervised.takeDatabase,
          shielded, calm, phase, unsent.2, Except.mapError]
      rw [reached]
      refine ⟨.error (.failed error), rfl, ?_⟩
      simp only [result, CommittedRun.failed, Session.close, unsent.1, ended.reports, ended.log]
  | ok summary =>
      rw [result] at phase
      have reached : state.after plan [.caller, .database, .caller] =
          { state with
            session := state.session.execute .commit
            caller := .ended (.ok summary) } := by
        simp [Supervised.take, Supervised.takeCaller, Supervised.receive, Supervised.takeDatabase,
          shielded, calm, phase, unsent.2, Except.mapError]
      have goesOn := RunPlan.run_stopping request.not_stops_unstopped result
      rw [reached] at soundFinal ⊢
      have committed : (state.session.execute .commit).committed =
          store.withLedger state.run.ledger := soundFinal.2.2
      refine ⟨.ok summary, rfl, ?_⟩
      simp only [result, goesOn, Bool.false_eq_true, if_false, Session.close, committed,
        ended.ledger, ended.reports, ended.log]

end DeliveryCycle
