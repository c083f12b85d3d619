import DeliveryCycle.Proofs.Run.Atomicity
import DeliveryCycle.Proofs.Run.Moves

/-!
# What holds between two turns

`Sound` says what a run and its caller have done wherever they are: the run has written the
candidates that it has finished, nobody else sees them before the commit, and there is a commit only
if the run returned. `sound_after` carries this through every history, whatever requests come in it
and when.
-/

namespace DeliveryCycle

theorem Session.undo_committed (session : Session) :
    session.undo.committed = session.committed := by
  unfold undo
  split
  · rfl
  · exact session.execute_committed (by simp)

/-- Taking one more row than those that were dropped. -/
theorem take_succ_of_drop_eq_cons {Row : Type} {rows rest : List Row} {row : Row} {count : Nat}
    (left : rows.drop count = row :: rest) :
    rows.take (count + 1) = rows.take count ++ [row] ∧ rows.drop (count + 1) = rest ∧
      count + 1 ≤ rows.length := by
  have inside : count < rows.length := by
    by_contra beyond
    rw [List.drop_eq_nil_of_le (Nat.le_of_not_lt beyond)] at left
    contradiction
  have atCount : rows[count] = row ∧ rows.drop (count + 1) = rest := by
    rw [List.drop_eq_getElem_cons inside] at left
    exact List.cons.inj left
  refine ⟨?_, atCount.2, inside⟩
  rw [List.take_succ_eq_append_getElem inside, atCount.1]

namespace Supervised

variable {plan : RunPlan} {state next : Supervised}

section Sound

variable {rows : List WorkItem} {store : Store}

/-- The rows that a cursor hands out. -/
def handedOut : Except RunError (Fetched WorkItem) → List WorkItem
  | .ok found => found.rows
  | .error _ => []

/-- The records of the finished candidates are written, and nothing else. -/
structure Wrote (plan : RunPlan) (rows : List WorkItem) (store : Store) (run : RunState) :
    Prop where
  ledger : run.ledger = (rows.take run.summary.candidates).foldl plan.write store.ledger
  count : run.summary.candidates ≤ rows.length

/-- The session of a run between two candidates. -/
def held (store : Store) (ledger : Ledger) : Session := ⟨store, store.withLedger ledger, []⟩

theorem executeAll_held {ledger : Ledger} {item : WorkItem}
    (unbroken : plan.breakdown? item = none) :
    (held store ledger).executeAll (plan.candidateStatements ledger item) =
      held store (plan.write ledger item) := by
  have executed : (held store ledger).executeAll
      (plan.candidateStatements (held store ledger).current.ledger item) = _ :=
    RunPlan.executeAll_candidateStatements (held store ledger)
  rw [unbroken] at executed
  exact executed

/-- What a run has done, by where it is. -/
def RunSound (plan : RunPlan) (rows : List WorkItem) (store : Store) (state : Supervised) : Prop :=
  match state.phase with
  | .opening found =>
      handedOut found = rows ∧ state.run.ledger = store.ledger ∧
        state.run.summary.candidates = 0 ∧ state.session = .onStore store
  | .fetching rest =>
      Wrote plan rows store state.run ∧ rows.drop state.run.summary.candidates = rest.rows ∧
        state.session = held store state.run.ledger
  | .working item statement later rest =>
      Wrote plan rows store state.run ∧
        rows.drop state.run.summary.candidates = item :: rest.rows ∧
        state.session.executeAll (statement :: later) =
          (held store state.run.ledger).executeAll
            (plan.candidateStatements state.run.ledger item) ∧
        .commit ∉ statement :: later
  | .ended (.ok _) =>
      Wrote plan rows store state.run ∧
        state.session.current = store.withLedger state.run.ledger
  | .ended (.error _) => True

theorem wrote_processed {run : RunState} {item : WorkItem} {rest : List WorkItem}
    (wrote : Wrote plan rows store run) (left : rows.drop run.summary.candidates = item :: rest) :
    Wrote plan rows store (plan.processed run item) ∧
      rows.drop (plan.processed run item).summary.candidates = rest := by
  rcases take_succ_of_drop_eq_cons left with ⟨taken, dropped, inside⟩
  refine ⟨⟨?_, inside⟩, dropped⟩
  have counted : (plan.processed run item).summary.candidates =
      run.summary.candidates + 1 := rfl
  rw [counted, taken, List.foldl_append, ← wrote.ledger]
  rfl

/-- A turn of the run goes on with what was done. -/
theorem RunSound.runMove (sound : RunSound plan rows store state)
    (move : RunMove plan state next) : RunSound plan rows store next := by
  cases move with
  | idle ended => exact sound
  | interrupted running told => trivial
  | failed running calm sent cause => trivial
  | opened calm waits =>
      simp only [RunSound, waits] at sound
      rcases sound with ⟨found, ledger, count, session⟩
      simp only [RunSound, count, List.drop_zero, session, ledger]
      exact ⟨⟨by simp [count, ledger], by simp [count]⟩, found.symm, rfl⟩
  | returned calm waits sameLedger sameCount =>
      simp only [RunSound, waits] at sound
      rcases sound with ⟨wrote, left, session⟩
      simp only [RunSound, sameLedger, session]
      exact ⟨⟨by rw [sameLedger, sameCount]; exact wrote.ledger, sameCount ▸ wrote.count⟩, rfl⟩
  | begins calm waits goesOn =>
      simp only [RunSound, waits] at sound
      rcases sound with ⟨wrote, left, session⟩
      refine ⟨wrote, left, ?_, RunPlan.commit_not_mem_candidateStatements⟩
      rw [session]
      rfl
  | sends calm waits =>
      simp only [RunSound, waits] at sound
      rcases sound with ⟨wrote, left, session, uncommitted⟩
      exact ⟨wrote, left, session, fun sent => uncommitted (List.mem_cons_of_mem _ sent)⟩
  | closes calm waits unbroken =>
      simp only [RunSound, waits] at sound
      rcases sound with ⟨wrote, left, session, uncommitted⟩
      rcases wrote_processed wrote left with ⟨written, rest⟩
      exact ⟨written, rest, session.trans (executeAll_held unbroken)⟩

theorem committed_of_runMove (sound : RunSound plan rows store state)
    (move : RunMove plan state next) : next.session.committed = state.session.committed := by
  have ofStatement {item : WorkItem} {statement : Statement} {later : List Statement}
      {rest : Fetched WorkItem} (waits : state.phase = .working item statement later rest) :
      (state.session.execute statement).committed = state.session.committed := by
    simp only [RunSound, waits] at sound
    rcases sound with ⟨_, _, _, uncommitted⟩
    apply state.session.execute_committed
    rintro rfl
    exact uncommitted List.mem_cons_self
  cases move with
  | idle | opened | returned | begins => rfl
  | interrupted running told => exact state.session.undo_committed
  | failed running calm sent cause =>
      rcases sent with rfl | ⟨item, statement, later, rest, waits, rfl⟩
      · rfl
      · exact ofStatement waits
  | sends calm waits => exact ofStatement waits
  | closes calm waits unbroken => exact ofStatement waits

/-- What is committed, by where the caller is. -/
def CallerSound (store : Store) (state : Supervised) : Prop :=
  match state.caller with
  | .shielded | .draining => state.session.committed = store ∧ state.commitSent = false
  | .committing summary _ =>
      state.phase = .ended (.ok summary) ∧
        state.session.committed =
          if state.commitSent then store else store.withLedger state.run.ledger
  | .ended (.ok summary) =>
      state.phase = .ended (.ok summary) ∧ state.commitSent = false ∧
        state.session.committed = store.withLedger state.run.ledger
  | .ended (.error (.failed error)) =>
      state.phase = .ended (.error (.failed error)) ∧ state.commitSent = false ∧
        state.session.committed = store
  | .ended (.error .cancelled) =>
      (state.session.committed = store ∧
          (state.commitSent = true → ∃ summary, state.phase = .ended (.ok summary))) ∨
        ((∃ summary, state.phase = .ended (.ok summary)) ∧ state.commitSent = false ∧
          state.session.committed = store.withLedger state.run.ledger)

structure Sound (plan : RunPlan) (rows : List WorkItem) (store : Store) (state : Supervised) :
    Prop where
  run : RunSound plan rows store state
  caller : CallerSound store state

/-- A turn of the run changes nothing for the caller but that the run may end. -/
theorem CallerSound.runMove (caller : CallerSound store state) (move : RunMove plan state next)
    (sameCommitted : next.session.committed = state.session.committed) :
    CallerSound store next := by
  rcases move.caller_eq with ⟨sameCaller, _, sameSent, _, sameEnd⟩
  by_cases ended : ∃ result, state.phase = .ended result
  · rcases ended with ⟨result, ended⟩
    rw [sameEnd result ended]
    exact caller
  · unfold CallerSound at caller ⊢
    rw [sameCaller, sameSent, sameCommitted]
    cases waits : state.caller with
    | shielded | draining =>
        rw [waits] at caller
        exact caller
    | committing summary cancelled =>
        rw [waits] at caller
        exact absurd ⟨_, caller.1⟩ ended
    | ended result =>
        rw [waits] at caller
        cases result with
        | ok summary => exact absurd ⟨_, caller.1⟩ ended
        | error error =>
            cases error with
            | failed error => exact absurd ⟨_, caller.1⟩ ended
            | cancelled =>
                rcases caller with ⟨unchanged, sent⟩ | ⟨⟨summary, returned⟩, _⟩
                · refine .inl ⟨unchanged, fun isSent => ?_⟩
                  rcases sent isSent with ⟨summary, returned⟩
                  exact absurd ⟨_, returned⟩ ended
                · exact absurd ⟨_, returned⟩ ended

/-- What the run has done does not depend on its log, nor on whether it was told to stop. -/
theorem RunSound.congr (sound : RunSound plan rows store state)
    (samePhase : next.phase = state.phase) (sameSession : next.session = state.session)
    (sameLedger : next.run.ledger = state.run.ledger)
    (sameSummary : next.run.summary = state.run.summary) : RunSound plan rows store next := by
  have sameWrote : Wrote plan rows store state.run → Wrote plan rows store next.run := by
    rintro ⟨ledger, count⟩
    exact ⟨by rw [sameLedger, sameSummary]; exact ledger, sameSummary ▸ count⟩
  unfold RunSound at sound ⊢
  rw [samePhase]
  cases phase : state.phase with
  | opening found =>
      rw [phase] at sound
      rw [sameLedger, sameSummary, sameSession]
      exact sound
  | fetching rest =>
      rw [phase] at sound
      rw [sameLedger, sameSummary, sameSession]
      exact ⟨sameWrote sound.1, sound.2⟩
  | working item statement later rest =>
      rw [phase] at sound
      rw [sameLedger, sameSummary, sameSession]
      exact ⟨sameWrote sound.1, sound.2⟩
  | ended result =>
      rw [phase] at sound
      cases result with
      | ok summary =>
          rw [sameLedger, sameSession]
          exact ⟨sameWrote sound.1, sound.2⟩
      | error error => trivial

/-- Nothing is committed, and no commit was sent, while the caller waits for the run. -/
theorem CallerSound.uncommitted {waiting : Supervised} {cancelled : Bool}
    (caller : CallerSound store state) (awaits : state.Awaits waiting cancelled) :
    waiting.session.committed = store ∧ waiting.commitSent = false ∧
      waiting.phase = state.phase ∧ CallerSound store waiting := by
  cases awaits with
  | shielded waits calm | draining waits calm =>
      have known := caller
      simp only [CallerSound, waits] at known
      exact ⟨known.1, known.2, rfl, caller⟩
  | told waits told =>
      simp only [CallerSound, waits] at caller
      exact ⟨caller.1, caller.2, rfl, caller⟩

theorem CallerSound.callerMove (caller : CallerSound store state) (move : CallerMove state next) :
    CallerSound store next := by
  cases move with
  | idle => exact caller
  | waits awaits running => exact (caller.uncommitted awaits).2.2.2
  | commits awaits ended =>
      rcases caller.uncommitted awaits with ⟨unchanged, _, samePhase, _⟩
      exact ⟨samePhase.trans ended, unchanged⟩
  | @fails waiting cancelled error awaits ended =>
      rcases caller.uncommitted awaits with ⟨unchanged, unsent, samePhase, _⟩
      cases error with
      | failed error => exact ⟨samePhase.trans ended, unsent, unchanged⟩
      | cancelled => exact .inl ⟨unchanged, fun sent => by simp [unsent] at sent⟩
  | givesUp waits told =>
      rcases waits with waits | ⟨summary, cancelled, waits⟩
      · simp only [CallerSound, waits] at caller
        exact .inl ⟨caller.1, fun sent => by simp [caller.2] at sent⟩
      · simp only [CallerSound, waits] at caller
        rcases caller with ⟨returned, committed⟩
        cases sent : state.commitSent with
        | true =>
            rw [sent] at committed
            exact .inl ⟨committed, fun _ => ⟨summary, returned⟩⟩
        | false =>
            rw [sent] at committed
            exact .inr ⟨⟨summary, returned⟩, rfl, committed⟩
  | @confirms summary waits calm carriedOut =>
      simp only [CallerSound, waits, carriedOut] at caller
      exact .inr ⟨⟨summary, caller.1⟩, carriedOut, caller.2⟩
  | returns waits calm carriedOut =>
      simp only [CallerSound, waits, carriedOut] at caller
      exact ⟨caller.1, carriedOut, caller.2⟩

/-- A commit is sent only if the run returned. -/
theorem CallerSound.returned_of_sent (caller : CallerSound store state)
    (sent : state.commitSent = true) : ∃ summary, state.phase = .ended (.ok summary) := by
  unfold CallerSound at caller
  cases waits : state.caller with
  | shielded | draining =>
      rw [waits] at caller
      simp [caller.2] at sent
  | committing summary cancelled =>
      rw [waits] at caller
      exact ⟨summary, caller.1⟩
  | ended result =>
      rw [waits] at caller
      cases result with
      | ok summary => exact ⟨summary, caller.1⟩
      | error error =>
          cases error with
          | failed error => simp [caller.2.1] at sent
          | cancelled =>
              rcases caller with ⟨_, returned⟩ | ⟨returned, _⟩
              · exact returned sent
              · exact returned

theorem Sound.carriesOut (sound : Sound plan rows store state) (sent : state.commitSent = true) :
    Sound plan rows store
      { state with session := state.session.execute .commit, commitSent := false } := by
  rcases sound with ⟨run, caller⟩
  rcases caller.returned_of_sent sent with ⟨summary, returned⟩
  simp only [RunSound, returned] at run
  constructor
  · simp only [RunSound, returned]
    exact run
  · -- The commit shows what the session holds.
    unfold CallerSound at caller ⊢
    cases waits : state.caller with
    | shielded | draining =>
        rw [waits] at caller
        simp [caller.2] at sent
    | committing summary cancelled =>
        rw [waits] at caller
        exact ⟨caller.1, run.2⟩
    | ended result =>
        rw [waits] at caller
        cases result with
        | ok summary => simp [caller.2.1] at sent
        | error error =>
            cases error with
            | failed error => simp [caller.2.1] at sent
            | cancelled => exact .inr ⟨⟨summary, returned⟩, rfl, run.2⟩

theorem Sound.move {turn : Turn} (sound : Sound plan rows store state)
    (move : Move plan state turn next) : Sound plan rows store next := by
  cases move with
  | run move =>
      exact ⟨sound.run.runMove move,
        sound.caller.runMove move (committed_of_runMove sound.run move)⟩
  | caller move =>
      rcases move.run_eq with ⟨samePhase, sameSession, _, sameLedger, sameSummary, _⟩
      exact ⟨sound.run.congr samePhase sameSession sameLedger sameSummary,
        sound.caller.callerMove move⟩
  | carriesOut sent => exact sound.carriesOut sent
  | rests => exact sound
  | request move =>
      rw [move.state_eq]
      exact ⟨sound.run, sound.caller⟩

/-- In every history the run and its caller are sound. -/
theorem sound_after (plan : RunPlan) (environment : Environment) (batchSize : Option Int)
    (store : Store) (turns : List Turn) :
    Sound plan (plan.rows environment batchSize) store
      ((start plan environment batchSize store).after plan turns) := by
  apply after_of_move Sound.move
  refine ⟨⟨?_, rfl, rfl, rfl⟩, rfl, rfl⟩
  unfold handedOut RunPlan.rows
  rfl

end Sound

end Supervised

end DeliveryCycle
