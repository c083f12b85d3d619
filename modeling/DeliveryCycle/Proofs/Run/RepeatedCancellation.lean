import DeliveryCycle.Proofs.Run.Cancellation
import DeliveryCycle.Proofs.Run.History
import DeliveryCycle.Proofs.Run.Requests

/-!
# What survives a cancellation

A caller that is requested to end while its run goes on tells the run to stop, lets it finish the
candidate that it works on, and commits what was done. This is so as long as no further request
comes while the caller drains the run or commits: `survives_cancellation`. A request while the
caller drains the run takes all of it away: the run is ended or its summary is thrown away, and
nothing is committed. The same happens if the run itself fails after the first request.
-/

namespace DeliveryCycle

namespace Supervised

variable {plan : RunPlan} {state : Supervised} {turns : List Turn}
variable {rows : List WorkItem} {store : Store} {bound : Nat}

section Outcome

variable {environment : Environment} {batchSize : Option Int} {before after : List Turn}

/-- The records of this many candidates are committed, and nothing else. -/
def Keeps (plan : RunPlan) (rows : List WorkItem) (store : Store) (count : Nat)
    (state : Supervised) : Prop :=
  state.session.committed = store.withLedger ((rows.take count).foldl plan.write store.ledger)

/-- The records of at least this many candidates are committed. -/
def KeepsFrom (plan : RunPlan) (rows : List WorkItem) (store : Store) (bound : Nat)
    (state : Supervised) : Prop :=
  ∃ count, bound ≤ count ∧ count ≤ rows.length ∧ state.Keeps plan rows store count

theorem quiet_start : Quiet (start plan environment batchSize store) := ⟨rfl, .inl rfl⟩

theorem undisturbed_start : Undisturbed store (start plan environment batchSize store) :=
  ⟨rfl, by simp [start], fun exposed => exposed.elim, by simp [start]⟩

theorem unfailing_start (usable : UsableBatch environment batchSize)
    (opened : plan.faults.cursor = none) :
    Unfailing (start plan environment batchSize store) := by
  unfold Unfailing start
  rw [RunPlan.candidates_of_usable usable opened]

theorem Quiet.shielded (quiet : Quiet state) (running : state.IsRunning) :
    state.caller = .shielded := by
  rcases quiet.place with shielded | ⟨result, ended⟩
  · exact shielded
  · exact absurd ended (running result)

theorem take_request_of_shielded (shielded : state.caller = .shielded) :
    state.take plan .request = { state with requested := true } := by
  simp [take, takeRequest, shielded]

/-- If the run goes on, the first turn of a caller that was requested to end tells it to stop. -/
theorem halted_of_told (shielded : state.caller = .shielded) (running : state.IsRunning) :
    Halted state.started ((state.take plan .request).take plan .caller) := by
  let asked : Supervised := { state with requested := true }
  have waiting : asked.drain.receive true = asked.drain := by
    unfold receive
    split
    · rename_i ended
      exact absurd ended (running _)
    · rename_i ended
      exact absurd ended (running _)
    · rfl
  have drains : asked.take plan .caller = asked.drain.receive true := by
    simp [asked, take, takeCaller, shielded]
  rw [take_request_of_shielded shielded, drains, waiting]
  exact .inl ⟨Nat.le_refl _, .inl rfl⟩

/-- A run that returned and was committed keeps as many candidates as it has started. -/
theorem Sound.keeps (sound : Sound plan rows store state) {summary : RunSummary}
    (returned : state.phase = .ended (.ok summary))
    (committed : state.session.committed = store.withLedger state.run.ledger) :
    state.started ≤ rows.length ∧ state.Keeps plan rows store state.started := by
  have started : state.started = state.run.summary.candidates := by simp [started, returned]
  have wrote := sound.run
  simp only [RunSound, returned] at wrote
  rw [started]
  exact ⟨wrote.1.count, committed.trans (congrArg store.withLedger wrote.1.ledger)⟩

/-- A run that works on a candidate has been through all rows before it. -/
theorem Sound.exists_done (sound : Sound plan rows store state) {item : WorkItem}
    {statement : Statement} {later : List Statement} {rest : Fetched WorkItem}
    (working : state.phase = .working item statement later rest) :
    ∃ done, rows = done ++ item :: rest.rows ∧ rows.take state.started = done ++ [item] := by
  have started : state.started = state.run.summary.candidates + 1 := by simp [started, working]
  have run := sound.run
  simp only [RunSound, working] at run
  rcases run with ⟨_, left, _⟩
  refine ⟨rows.take state.run.summary.candidates, ?_, ?_⟩
  · rw [← left, List.take_append_drop]
  · rw [started]
    exact (take_succ_of_drop_eq_cons left).1

theorem Reached.le_started (reached : Reached bound state) {summary : RunSummary}
    (returned : state.phase = .ended (.ok summary)) : bound ≤ state.started := by
  rcases reached with reached | ⟨error, failed⟩
  · exact reached
  · simp [returned] at failed

theorem Halted.started_le (halted : Halted bound state) {summary : RunSummary}
    (returned : state.phase = .ended (.ok summary)) : state.started ≤ bound := by
  rcases halted with ⟨atMost, _⟩ | ⟨error, failed⟩
  · exact atMost
  · simp [returned] at failed

/-- After a request while the caller drains the run there is nothing left to commit. -/
theorem doomed_of_requestedWhile (sound : Sound plan rows store state)
    (requested : state.RequestedWhile plan (· = .draining) turns) :
    Doomed store (state.after plan turns) := by
  induction turns generalizing state with
  | nil => exact requested.elim
  | cons turn rest ih =>
      have move := move_take plan state turn
      rcases requested with ⟨rfl, waits⟩ | later
      · have doomed : Doomed store (state.take plan .request) :=
          .of_requestMove sound.caller waits (requestMove state)
        have both : Sound plan rows store ((state.take plan .request).after plan rest) ∧
            Doomed store ((state.take plan .request).after plan rest) := by
          apply @after_of_move plan _ _
            (fun state => Sound plan rows store state ∧ Doomed store state)
          · rintro state next turn ⟨sound, doomed⟩ move
            exact ⟨sound.move move, doomed.move sound.run move⟩
          · exact ⟨sound.move move, doomed⟩
        exact both.2
      · exact ih (sound.move move) later

/-- A single request while the run goes on spares the run, and the commit of its caller. -/
theorem not_requestedWhile_of_single (shielded : (state.after plan before).caller = .shielded)
    (first : .request ∉ before) (only : .request ∉ after) :
    ¬state.RequestedWhile plan CallerPhase.IsExposed (before ++ .request :: after) := by
  rw [requestedWhile_append]
  rintro (earlier | ⟨_, exposed⟩ | later)
  · exact not_requestedWhile_of_not_mem first earlier
  · rw [shielded] at exposed
    exact exposed
  · exact not_requestedWhile_of_not_mem only later

section Told

variable (plan : RunPlan) (environment : Environment) (batchSize : Option Int) (store : Store)
variable (first : .request ∉ before)
variable (running : ((start plan environment batchSize store).after plan before).IsRunning)

include first running in
theorem caller_shielded :
    ((start plan environment batchSize store).after plan before).caller = .shielded :=
  (quiet_start.after first).shielded running

include first running in
/-- A caller that was requested to end does not return a summary. -/
theorem told_of_request : Told ((start plan environment batchSize store).after plan
    (before ++ .request :: after)) := by
  have shielded := caller_shielded plan environment batchSize store first running
  rw [after_append, after_cons]
  apply after_of_move Told.move
  rw [take_request_of_shielded shielded]
  simp [Told, shielded]

include first running in
/-- A run that returned and was committed after a request keeps what had been started. -/
theorem keeps_of_returned {summary : RunSummary} :
    let opened := start plan environment batchSize store
    let rows := plan.rows environment batchSize
    let told := opened.after plan before
    let final := opened.after plan (before ++ .request :: after)
    final.phase = .ended (.ok summary) →
      final.session.committed = store.withLedger final.run.ledger →
      final.KeepsFrom plan rows store told.started ∧
        (after.head? = some .caller → final.Keeps plan rows store told.started) := by
  intro opened rows told final returned committed
  have shielded : told.caller = .shielded :=
    caller_shielded plan environment batchSize store first running
  have reached : Reached told.started final := by
    have fromTold : final = told.after plan (.request :: after) := after_append
    rw [fromTold]
    exact after_of_move Reached.move (.inl (Nat.le_refl _))
  have halted (atOnce : after.head? = some .caller) : Halted told.started final := by
    rcases List.head?_eq_some_iff.mp atOnce with ⟨later, split⟩
    have fromTold : final =
        ((told.take plan .request).take plan .caller).after plan later := by
      simp only [final, split, after_append, after_cons]
      rfl
    rw [fromTold]
    exact after_of_move Halted.move (halted_of_told shielded running)
  have sound : Sound plan rows store final := sound_after plan environment batchSize store _
  rcases sound.keeps returned committed with ⟨atMost, keeps⟩
  have atLeast := reached.le_started returned
  refine ⟨⟨_, atLeast, atMost, keeps⟩, fun atOnce => ?_⟩
  rw [Nat.le_antisymm atLeast ((halted atOnce).started_le returned)]
  exact keeps

include first running in
/-- A request that spares the run, and the commit of its caller. -/
theorem outcome_of_spared {error : CommitError} :
    let opened := start plan environment batchSize store
    let rows := plan.rows environment batchSize
    let told := opened.after plan before
    let final := opened.after plan (before ++ .request :: after)
    ¬opened.RequestedWhile plan CallerPhase.IsExposed (before ++ .request :: after) →
      final.caller = .ended (.error error) →
      (error = .cancelled ∧ final.KeepsFrom plan rows store told.started ∧
          (after.head? = some .caller → final.Keeps plan rows store told.started)) ∨
        ((∃ reason, error = .failed reason) ∧ final.session.committed = store ∧
          ¬(UsableBatch environment batchSize ∧ plan.faults.cursor = none ∧ plan.Steady)) := by
  intro opened rows told final spared ended
  have start : Sound plan rows store opened := sound_after plan environment batchSize store []
  have undisturbed : Sound plan rows store final ∧ Undisturbed store final := by
    apply @after_of_not_requestedWhile plan _ _ CallerPhase.IsExposed
      (fun state => Sound plan rows store state ∧ Undisturbed store state)
    · rintro state next turn ⟨sound, undisturbed⟩ spared move
      exact ⟨sound.move move, undisturbed.move sound.caller spared move⟩
    · exact spared
    · exact ⟨start, undisturbed_start⟩
  rcases undisturbed with ⟨sound, undisturbed⟩
  cases error with
  | cancelled =>
      rcases undisturbed.kept ended with ⟨⟨summary, returned⟩, _, committed⟩
      exact .inl ⟨rfl, keeps_of_returned plan environment batchSize store first running returned
        committed⟩
  | failed reason =>
      have caller := sound.caller
      simp only [CallerSound, ended] at caller
      rcases caller with ⟨failed, _, unchanged⟩
      refine .inr ⟨⟨reason, rfl⟩, unchanged, ?_⟩
      rintro ⟨usable, cursor, steady⟩
      have unfailing : Unfailing final := by
        apply after_of_move (fun unfailing move => unfailing.move steady move)
        exact unfailing_start usable cursor
      simp [Unfailing, failed] at unfailing

end Told

section Drained

/-- A caller that drains a run which comes to the end of its rows commits it and is cancelled. -/
theorem drained_is_committed (calm : state.interrupted = false) (unasked : state.requested = false)
    (drains : state.caller = .draining) (waits : state.phase = .fetching ⟨[], none⟩) :
    (state.after plan [Turn.run, .caller, .database, .caller]).caller =
      .ended (.error .cancelled) := by
  rcases state with ⟨session, run, phase, interrupted, caller, requested, commitSent⟩
  subst calm unasked drains waits
  rfl

/-- It fails with a run whose cursor fails at the end of the rows. -/
theorem drained_fails {error : BatchSizeTooLarge} (calm : state.interrupted = false)
    (unasked : state.requested = false) (drains : state.caller = .draining)
    (waits : state.phase = .fetching ⟨[], some error⟩)
    (goesOn : state.run.summary.cancelled = false) :
    (state.after plan [Turn.run, .caller]).caller =
      .ended (.error (.failed (.batchSizeTooLarge error))) := by
  have running : state.IsRunning := isRunning_of_eq waits (by simp)
  simp only [after_cons, after_nil, take, takeRun_of_calm calm running, advanceRun, waits,
    RunState.conclude, goesOn]
  simp [takeCaller, drains, unasked, receive, endRun, RunState.finish, Except.mapError]

end Drained

section Twins

variable {failure : Option BatchSizeTooLarge}

/-- A plan for the project of the store with two candidates; nothing goes wrong in it. -/
def twinPlan : RunPlan := ⟨twinStore.collected, "project", .none, .none⟩

theorem steady_twinPlan : twinPlan.Steady := ⟨fun _ => rfl, fun _ => rfl⟩

theorem usableBatch_one : UsableBatch [] (some 1) := ⟨1, rfl, by decide, by decide⟩

theorem candidates_twinPlan : twinPlan.candidates [] (some 1) =
    .ok ⟨[linkedTask 1 "T", linkedTask 2 "T"], none⟩ := by
  rw [RunPlan.candidates_of_usable usableBatch_one rfl, ← candidates_twinStore]
  rfl

/-- The run has finished one candidate and begun the other one. -/
def oneFinished (failure : Option BatchSizeTooLarge) : Supervised where
  session := (Session.onStore twinStore).executeAll
    (twinPlan.candidateStatements twinStore.ledger (linkedTask 1 "T"))
  run := twinPlan.processed (.start twinPlan twinStore.ledger) (linkedTask 1 "T")
  phase :=
    let ledger := twinPlan.write twinStore.ledger (linkedTask 1 "T")
    .working (linkedTask 2 "T") .savepoint
      (twinPlan.writingStatements (linkedTask 2 "T") ++
        [twinPlan.closingStatement ledger (linkedTask 2 "T")]) ⟨[], failure⟩
  interrupted := false
  caller := .shielded
  requested := false
  commitSent := false

theorem after_seven_turns (handedOut : twinPlan.candidates [] batchSize =
      .ok ⟨[linkedTask 1 "T", linkedTask 2 "T"], failure⟩) :
    (start twinPlan [] batchSize twinStore).after twinPlan (List.replicate 7 Turn.run) =
      oneFinished failure := by
  let opened := start twinPlan [] batchSize twinStore
  let found : Fetched WorkItem := ⟨[linkedTask 1 "T", linkedTask 2 "T"], failure⟩
  let fetching : Supervised := { opened with phase := .fetching found }
  have opens : opened.after twinPlan [.run] = fetching := by
    have waits : opened.phase = .opening (.ok found) := congrArg RunPhase.opening handedOut
    have running : opened.IsRunning := isRunning_of_eq waits (by simp)
    simp only [after_cons, after_nil, take, takeRun_of_calm rfl running, advanceRun, waits,
      fetching]
  have written : (twinPlan.writingStatements (linkedTask 1 "T")).length + 3 = 5 := by cbv
  have closes := @after_begun fetching (linkedTask 1 "T") [linkedTask 2 "T"] failure twinPlan rfl
    rfl rfl
  rw [written, closeCandidate_of_steady steady_twinPlan] at closes
  have split :
      List.replicate 7 Turn.run = [Turn.run] ++ List.replicate 5 Turn.run ++ [Turn.run] := rfl
  rw [split, after_append, after_append, opens, closes]
  rfl

theorem isRunning_oneFinished : (oneFinished failure).IsRunning := by
  intro result ended
  cases ended

theorem started_oneFinished : (oneFinished failure).started = 2 := by
  have counted : (oneFinished failure).run.summary.candidates = 1 := rfl
  unfold started
  rw [counted]
  rfl

/-- After four more turns of the run its other candidate is finished as well. -/
theorem after_four_turns :
    let drained := (oneFinished failure).drain
    let ledger := twinPlan.write twinStore.ledger (linkedTask 1 "T")
    (oneFinished failure).after twinPlan ([Turn.request, .caller] ++ List.replicate 4 Turn.run) =
      { drained with
        session := drained.session.executeAll
          (twinPlan.candidateStatements ledger (linkedTask 2 "T"))
        run := twinPlan.processed drained.run (linkedTask 2 "T")
        phase := .fetching ⟨[], failure⟩ } := by
  intro drained ledger
  have drains : (oneFinished failure).after twinPlan [Turn.request, .caller] = drained := rfl
  have sent : (twinPlan.writingStatements (linkedTask 2 "T")).length + 2 = 4 := by cbv
  have closes := @after_working drained (linkedTask 2 "T") .savepoint _ ⟨[], failure⟩ twinPlan
    rfl rfl
  rw [closeCandidate_of_steady steady_twinPlan, List.length_append, List.length_singleton,
    sent] at closes
  rw [after_append, drains, closes]
  rfl

end Twins

/-- A caller is requested to end while its run goes on, for the first time after the history
`before`, and perhaps again later. It always can end, and if it has, it does not return a summary,
and the store keeps nothing or at least the candidates that had been started. If no request came
while it drained the run or committed, then it was cancelled and those candidates are kept, no other
ones if it learnt of the request before the run went on; or the run failed, which it does not if its
batches are usable and neither the cursor, a candidate nor the listener breaks down. If a request
came while it drained the run, it was cancelled and all is lost. -/
theorem survives_cancellation (plan : RunPlan) (environment : Environment) (batchSize : Option Int)
    (store : Store) (before after : List Turn) (first : .request ∉ before)
    (running : ((start plan environment batchSize store).after plan before).IsRunning) :
    let opened := start plan environment batchSize store
    let rows := plan.rows environment batchSize
    let told := opened.after plan before
    let turns := before ++ .request :: after
    let final := opened.after plan turns
    (∃ later, .request ∉ later ∧ ∃ result, (final.after plan later).caller = .ended result) ∧
      ∀ result, final.caller = .ended result →
        ∃ error, result = .error error ∧
          (final.session.committed = store ∨ final.KeepsFrom plan rows store told.started) ∧
          (¬opened.RequestedWhile plan CallerPhase.IsExposed turns →
            (error = .cancelled ∧ final.KeepsFrom plan rows store told.started ∧
                (after.head? = some .caller → final.Keeps plan rows store told.started)) ∨
              ((∃ reason, error = .failed reason) ∧ final.session.committed = store ∧
                ¬(UsableBatch environment batchSize ∧ plan.faults.cursor = none ∧
                  plan.Steady))) ∧
          (opened.RequestedWhile plan (· = .draining) turns →
            error = .cancelled ∧ final.session.committed = store ∧ final.commitSent = false) := by
  intro opened rows told turns final
  have sound (history : List Turn) : Sound plan rows store (opened.after plan history) :=
    sound_after plan environment batchSize store history
  refine ⟨exists_end plan final, fun result ended => ?_⟩
  cases result with
  | ok summary =>
      have told : Told final := told_of_request plan environment batchSize store first running
      simp [Told, ended] at told
  | error error =>
      refine ⟨error, rfl, ?_, fun spared => ?_, fun requested => ?_⟩
      · have caller : CallerSound store final := (sound turns).caller
        cases error with
        | failed reason =>
            simp only [CallerSound, ended] at caller
            exact .inl caller.2.2
        | cancelled =>
            simp only [CallerSound, ended] at caller
            rcases caller with ⟨unchanged, _⟩ | ⟨⟨summary, returned⟩, _, committed⟩
            · exact .inl unchanged
            · exact .inr (keeps_of_returned plan environment batchSize store first running returned
                committed).1
      · exact outcome_of_spared plan environment batchSize store first running spared ended
      · have doomed : Doomed store final := doomed_of_requestedWhile (sound []) requested
        refine ⟨?_, doomed.unchanged, doomed.unsent⟩
        rcases doomed.fate with cancelled | ⟨draining, _⟩
        · simpa [ended] using cancelled
        · simp [ended] at draining

/-- A single request keeps both candidates, the finished one and the one that the run works on. -/
theorem survives_cancellation_of_oneFinished :
    let opened := start twinPlan [] (some 1) twinStore
    let before := List.replicate 7 Turn.run
    let after := [Turn.caller] ++ List.replicate 4 Turn.run ++ [Turn.run, .caller, .database, .caller]
    let final := opened.after twinPlan (before ++ .request :: after)
    .request ∉ before ∧ (opened.after twinPlan before).IsRunning ∧
      final.caller = .ended (.error .cancelled) ∧
        final.Keeps twinPlan (twinPlan.rows [] (some 1)) twinStore 2 := by
  intro opened before after final
  have told : opened.after twinPlan before = oneFinished none :=
    after_seven_turns candidates_twinPlan
  have first : .request ∉ before := by decide
  have running : (opened.after twinPlan before).IsRunning := by
    rw [told]
    exact isRunning_oneFinished
  have ended : final.caller = .ended (.error .cancelled) := by
    have split : before ++ .request :: after = before ++
        ([Turn.request, .caller] ++ List.replicate 4 Turn.run ++
          [Turn.run, .caller, .database, .caller]) := rfl
    simp only [final, split]
    rw [after_append, told, after_append, after_four_turns]
    exact drained_is_committed rfl rfl rfl rfl
  have shielded : (opened.after twinPlan before).caller = .shielded := by rw [told]; rfl
  rcases (survives_cancellation twinPlan [] (some 1) twinStore before after first running).2 _ ended
    with ⟨error, cancelled, _, spared, _⟩
  have single := not_requestedWhile_of_single shielded first (by decide : .request ∉ after)
  rcases spared single with ⟨_, _, kept⟩ | ⟨_, _, unusable⟩
  · have both := kept rfl
    rw [told, started_oneFinished] at both
    exact ⟨first, running, ended, both⟩
  · exact absurd ⟨usableBatch_one, rfl, steady_twinPlan⟩ unusable

/-- A caller that is requested to end once, while its run works on a candidate, and learns of it
before the run goes on, ends as the committing run that is told to stop during this candidate. -/
theorem single_request_ends_as_stopsDuring {request : RunRequest} {options : RunOptions}
    {item : WorkItem} {statement : Statement} {later : List Statement} {rest : Fetched WorkItem}
    (wellKeyed : store.WellKeyed) (quiet : request.signals = .none)
    (accepted : RunOptions.ofName request.projectName = .ok options)
    (usable : UsableBatch environment request.batchSize)
    (storageOnly : request.faults.StorageOnly) (first : .request ∉ before)
    (only : .request ∉ after) :
    let plan := request.plan store options
    let opened := start plan environment request.batchSize store
    let final := opened.after plan (before ++ .request :: .caller :: after)
    let stopped := calculateAndCommit environment store
      { request with signals := .stopsDuring fun task => task = item.key }
    (opened.after plan before).phase = .working item statement later rest →
      ∀ result, final.caller = .ended result →
        result = stopped.result ∧ final.session.committed = stopped.store := by
  intro plan opened final stopped working result ended
  have running : (opened.after plan before).IsRunning := isRunning_of_eq working (by simp)
  have rows : plan.rows environment request.batchSize =
      store.collected.candidates options.project := by
    unfold RunPlan.rows
    rw [RunPlan.candidates_of_usable usable storageOnly.cursor]
    rfl
  rcases (sound_after plan environment request.batchSize store before).exists_done working with
    ⟨done, split, taken⟩
  rw [rows] at split taken
  have distinct : ∀ other ∈ done, decide (other.key = item.key) = false := by
    have nodup : ((store.collected.candidates options.project).map (·.key)).Nodup :=
      Collected.nodup_candidates_key wellKeyed.workItems
    rw [split, List.map_append, List.map_cons, List.nodup_append] at nodup
    intro other mem
    exact decide_eq_false (nodup.2.2 _ (List.mem_map_of_mem mem) _ List.mem_cons_self)
  have stops : stopped.result = .error .cancelled ∧ stopped.store = _ :=
    calculateAndCommit_stopsDuring _ rfl accepted usable storageOnly split distinct
      (decide_eq_true rfl)
  rcases stops with ⟨cancelled, kept⟩
  have told : Told final := told_of_request plan environment request.batchSize store first running
  have shielded : (opened.after plan before).caller = .shielded :=
    caller_shielded plan environment request.batchSize store first running
  have spared := not_requestedWhile_of_single shielded first
    (List.not_mem_cons_of_ne_of_not_mem (by decide : Turn.request ≠ .caller) only)
  cases result with
  | ok summary => simp [Told, ended] at told
  | error error =>
      rcases outcome_of_spared plan environment request.batchSize store first running spared ended
        with ⟨rfl, _, atOnce⟩ | ⟨_, _, unusable⟩
      · have keeps := atOnce rfl
        rw [Keeps, rows, taken] at keeps
        exact ⟨cancelled.symm, keeps.trans kept.symm⟩
      · have steady : plan.Steady :=
          ⟨storageOnly.breakdown, fun number => by simp [plan, RunRequest.plan, quiet, Signals.none]⟩
        exact absurd ⟨usable, storageOnly.cursor, steady⟩ unusable

/-- A caller is requested to end while its run goes on, for the first time after the history
`before`. Once it has ended, it was cancelled, and the store keeps the candidates that had been
started. -/
def SurvivesRequest (plan : RunPlan) (environment : Environment) (batchSize : Option Int)
    (store : Store) (before after : List Turn) : Prop :=
  let opened := start plan environment batchSize store
  let told := opened.after plan before
  let final := opened.after plan (before ++ .request :: after)
  .request ∉ before → told.IsRunning → ∀ result, final.caller = .ended result →
    result = .error .cancelled ∧
      final.KeepsFrom plan (plan.rows environment batchSize) store told.started

/-- A request, and another one while the caller drains the run. -/
theorem after_second_request (shielded : state.caller = .shielded) (running : state.IsRunning) :
    let final := state.after plan [.request, .caller, .request, .run, .caller]
    final.caller = .ended (.error .cancelled) ∧
      final.session.committed = state.session.committed := by
  rcases state with ⟨session, run, phase, interrupted, caller, requested, commitSent⟩
  have shielded : caller = .shielded := shielded
  subst shielded
  cases phase with
  | ended result => exact absurd rfl (running result)
  | opening | fetching | working => exact ⟨rfl, session.undo_committed⟩

theorem not_survivesRequest_twice :
    ¬SurvivesRequest twinPlan [] (some 1) twinStore (List.replicate 7 Turn.run)
      [Turn.caller, .request, .run, .caller] := by
  intro survives
  have handedOut := candidates_twinPlan
  have rows : twinPlan.rows [] (some 1) = [linkedTask 1 "T", linkedTask 2 "T"] := by
    unfold RunPlan.rows
    rw [handedOut]
  have caller := (sound_after twinPlan [] (some 1) twinStore (List.replicate 7 Turn.run)).caller
  rw [after_seven_turns handedOut] at caller
  have unchanged : (oneFinished none).session.committed = twinStore := caller.1
  dsimp only [SurvivesRequest] at survives
  rw [after_append, after_seven_turns handedOut] at survives
  rcases @after_second_request twinPlan (oneFinished none) rfl isRunning_oneFinished with
    ⟨ended, lost⟩
  rcases survives (by decide) isRunning_oneFinished _ ended with ⟨_, count, atLeast, atMost, keeps⟩
  have both : count = 2 := by
    rw [started_oneFinished] at atLeast
    rw [rows] at atMost
    exact Nat.le_antisymm atMost atLeast
  -- What would be kept are two records that are not stale.
  have kept := congrArg (fun store => store.ledger.map (·.deploymentId))
    ((lost.trans unchanged).symm.trans keeps)
  rw [both, rows] at kept
  have fresh : ((twinPlan.write (twinPlan.write twinStore.ledger (linkedTask 1 "T"))
      (linkedTask 2 "T")).map (·.deploymentId)) = ["", ""] := by cbv
  exact absurd (kept.trans fresh) (by decide)

theorem not_survivesRequest_of_largeBatch :
    ¬SurvivesRequest twinPlan [] (some 2147483648) twinStore (List.replicate 7 Turn.run)
      ([Turn.caller] ++ List.replicate 4 Turn.run ++ [Turn.run, .caller]) := by
  intro survives
  let failure : BatchSizeTooLarge := ⟨2147483648⟩
  have handedOut : twinPlan.candidates [] (some 2147483648) =
      .ok ⟨[linkedTask 1 "T", linkedTask 2 "T"], some failure⟩ := by
    change Except.ok (fetched 2147483648 (twinStore.collected.candidates "project")) = _
    rw [candidates_twinStore]
    decide
  have ended : ((oneFinished (some failure)).after twinPlan
      (.request :: ([Turn.caller] ++ List.replicate 4 Turn.run ++ [Turn.run, .caller]))).caller =
        .ended (.error (.failed (.batchSizeTooLarge failure))) := by
    have split :
        Turn.request :: ([Turn.caller] ++ List.replicate 4 Turn.run ++ [Turn.run, .caller]) =
          [Turn.request, .caller] ++ List.replicate 4 Turn.run ++ [Turn.run, .caller] := rfl
    rw [split, after_append, after_four_turns]
    exact drained_fails rfl rfl rfl rfl rfl
  dsimp only [SurvivesRequest] at survives
  rw [after_append, after_seven_turns handedOut] at survives
  rcases survives (by decide) isRunning_oneFinished _ ended with ⟨cancelled, _⟩
  simp at cancelled

/-- A second request loses a candidate that was finished before the first one. So does a single
request, during the last candidate of a run whose batches are too large. -/
theorem not_survivesRequest_twinStore :
    ¬SurvivesRequest twinPlan [] (some 1) twinStore (List.replicate 7 Turn.run)
        [Turn.caller, .request, .run, .caller] ∧
      ¬SurvivesRequest twinPlan [] (some 2147483648) twinStore (List.replicate 7 Turn.run)
        ([Turn.caller] ++ List.replicate 4 Turn.run ++ [Turn.run, .caller]) :=
  ⟨not_survivesRequest_twice, not_survivesRequest_of_largeBatch⟩

end Outcome

end Supervised

end DeliveryCycle
