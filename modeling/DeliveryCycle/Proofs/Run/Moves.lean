import DeliveryCycle.Proofs.Run.Calculation
import DeliveryCycle.Run.Supervision

/-!
# What one turn may do

The run, its caller and the database go on turn by turn, and a request may come at any of them.
`move_take` says what each kind of turn does, with all that it depends on, so that whatever a
history keeps is shown for one move at a time: `after_of_move`.
-/

namespace DeliveryCycle

namespace Supervised

variable {plan : RunPlan} {state next : Supervised} {turns : List Turn}

@[simp]
theorem after_nil : state.after plan [] = state := rfl

@[simp]
theorem after_cons {turn : Turn} :
    state.after plan (turn :: turns) = (state.take plan turn).after plan turns := rfl

theorem after_append {later : List Turn} :
    state.after plan (turns ++ later) = (state.after plan turns).after plan later :=
  List.foldl_append

/-- The run has not ended. -/
def IsRunning (state : Supervised) : Prop := ∀ result, state.phase ≠ .ended result

/-- What one turn of the run may do. -/
inductive RunMove (plan : RunPlan) (state : Supervised) : Supervised → Prop
  | idle {result : Except CommitError RunSummary} (ended : state.phase = .ended result) :
      RunMove plan state state
  | interrupted (running : state.IsRunning) (told : state.interrupted = true) :
      RunMove plan state
        { state with session := state.session.undo, phase := .ended (.error .cancelled) }
  | failed {last : RunState} {error : RunError} {session : Session} (running : state.IsRunning)
      (calm : state.interrupted = false)
      (sent : session = state.session ∨ ∃ item statement later rest,
        state.phase = .working item statement later rest ∧
          session = state.session.execute statement)
      (cause : (∃ error, state.phase = .opening (.error error)) ∨
        (∃ rest, state.phase = .fetching rest ∧ rest.failure ≠ none) ∨ ¬plan.Steady) :
      RunMove plan state
        { state with session := session, run := last, phase := .ended (.error (.failed error)) }
  | opened {found : Fetched WorkItem} (calm : state.interrupted = false)
      (waits : state.phase = .opening (.ok found)) :
      RunMove plan state { state with phase := .fetching found }
  | returned {rest : Fetched WorkItem} {last : RunState} {summary : RunSummary}
      (calm : state.interrupted = false) (waits : state.phase = .fetching rest)
      (sameLedger : last.ledger = state.run.ledger)
      (sameCount : last.summary.candidates = state.run.summary.candidates) :
      RunMove plan state { state with run := last, phase := .ended (.ok summary) }
  | begins {item : WorkItem} {rest : List WorkItem} {failure : Option BatchSizeTooLarge}
      (calm : state.interrupted = false)
      (waits : state.phase = .fetching ⟨item :: rest, failure⟩)
      (goesOn : state.run.stopping = false) :
      RunMove plan state
        { state with
          phase := .working item .savepoint
            (plan.writingStatements item ++ [plan.closingStatement state.run.ledger item])
            ⟨rest, failure⟩ }
  | sends {item : WorkItem} {statement following : Statement} {later : List Statement}
      {rest : Fetched WorkItem} (calm : state.interrupted = false)
      (waits : state.phase = .working item statement (following :: later) rest) :
      RunMove plan state
        { state with
          session := state.session.execute statement
          phase := .working item following later rest }
  | closes {item : WorkItem} {statement : Statement} {rest : Fetched WorkItem}
      (calm : state.interrupted = false) (waits : state.phase = .working item statement [] rest)
      (unbroken : plan.breakdown? item = none) :
      RunMove plan state
        { state with
          session := state.session.execute statement
          run := plan.processed state.run item
          phase := .fetching rest }

theorem isRunning_of_eq {phase : RunPhase} (waits : state.phase = phase)
    (differs : ∀ result, phase ≠ .ended result) : state.IsRunning := by
  intro result ended
  exact differs result (waits.symm.trans ended)

/-- A run that ends after it came to the end of its rows fails only if its cursor does. -/
theorem RunMove.endRun_conclude {rest : Fetched WorkItem} {last : RunState}
    (calm : state.interrupted = false) (waits : state.phase = .fetching rest)
    (sameLedger : last.ledger = state.run.ledger)
    (sameCount : last.summary.candidates = state.run.summary.candidates) :
    RunMove plan state (state.endRun last (last.conclude rest.failure)) := by
  have running : state.IsRunning := isRunning_of_eq waits (by simp)
  unfold endRun RunState.conclude
  split
  · rename_i error _ failed _
    exact .failed running calm (.inl rfl) (.inr (.inl ⟨rest, waits, by simp [failed]⟩))
  · exact .returned calm waits sameLedger sameCount

theorem RunMove.closeCandidate {item : WorkItem} {statement : Statement} {rest : Fetched WorkItem}
    (calm : state.interrupted = false)
    (waits : state.phase = .working item statement [] rest) :
    RunMove plan state
      ({ state with session := state.session.execute statement }.closeCandidate plan item rest) := by
  have running : state.IsRunning := isRunning_of_eq waits (by simp)
  have sent : ∃ item' statement' later rest',
      state.phase = .working item' statement' later rest' ∧
        state.session.execute statement = state.session.execute statement' :=
    ⟨item, statement, [], rest, waits, rfl⟩
  unfold Supervised.closeCandidate
  cases broken : plan.breakdown? item with
  | some error =>
      have unsteady : ¬plan.Steady := by
        intro steady
        rw [steady.breakdown?_eq_none item] at broken
        contradiction
      have failed : (state.run.advance plan item).2 = .error error :=
        RunState.advance_of_broken broken
      rcases advanced : state.run.advance plan item with ⟨last, result⟩
      rw [advanced] at failed
      simp only at failed
      simp only [failed]
      exact .failed running calm (.inr sent) (.inr (.inr unsteady))
  | none =>
      have reported := RunState.report_of_unbroken state.run broken
      simp only [RunState.advance_of_unbroken broken] at reported ⊢
      rw [reported]
      cases listener : plan.signals.reportBreakdown (state.run.reports + 1) with
      | some error =>
          have unsteady : ¬plan.Steady := by
            intro steady
            rw [steady.reports] at listener
            contradiction
          exact .failed running calm (.inr sent) (.inr (.inr unsteady))
      | none => exact .closes calm waits broken

theorem RunMove.advanceRun (running : state.IsRunning) (calm : state.interrupted = false) :
    RunMove plan state (state.advanceRun plan) := by
  unfold Supervised.advanceRun
  split
  · rename_i error waits
    exact .failed running calm (.inl rfl) (.inl ⟨error, waits⟩)
  · rename_i found waits
    exact .opened calm waits
  · rename_i failure waits
    exact .endRun_conclude calm waits rfl rfl
  · rename_i item rest failure waits
    split
    · exact .endRun_conclude calm waits rfl rfl
    · rename_i goesOn
      exact .begins calm waits (Bool.eq_false_of_not_eq_true goesOn)
  · rename_i item statement later rest waits
    dsimp only
    split
    · exact .closeCandidate calm waits
    · exact .sends calm waits
  · rename_i result ended
    exact absurd ended (running result)

/-- A turn of the run is one of the moves. -/
theorem runMove (plan : RunPlan) (state : Supervised) :
    RunMove plan state (state.takeRun plan) := by
  unfold takeRun
  split
  · rename_i result _ ended
    exact .idle ended
  · rename_i told notEnded
    exact .interrupted (fun result ended => notEnded result ended) told
  · rename_i calm notEnded
    exact .advanceRun (fun result ended => notEnded result ended) calm

/-- The caller waits for the run, and is this state as far as it knows of requests. -/
inductive Awaits (state : Supervised) : Supervised → Bool → Prop
  | shielded (waits : state.caller = .shielded) (calm : state.requested = false) :
      Awaits state state false
  | told (waits : state.caller = .shielded) (told : state.requested = true) :
      Awaits state state.drain true
  | draining (waits : state.caller = .draining) (calm : state.requested = false) :
      Awaits state state true

/-- What one turn of the caller may do. -/
inductive CallerMove (state : Supervised) : Supervised → Prop
  | idle : CallerMove state state
  | waits {waiting : Supervised} {cancelled : Bool} (awaits : state.Awaits waiting cancelled)
      (running : state.IsRunning) : CallerMove state waiting
  | commits {waiting : Supervised} {cancelled : Bool} {summary : RunSummary}
      (awaits : state.Awaits waiting cancelled) (ended : state.phase = .ended (.ok summary)) :
      CallerMove state
        { waiting with caller := .committing summary cancelled, commitSent := true }
  | fails {waiting : Supervised} {cancelled : Bool} {error : CommitError}
      (awaits : state.Awaits waiting cancelled) (ended : state.phase = .ended (.error error)) :
      CallerMove state { waiting with caller := .ended (.error error) }
  | givesUp (waits : state.caller = .draining ∨
        ∃ summary cancelled, state.caller = .committing summary cancelled)
      (told : state.requested = true) :
      CallerMove state { state with caller := .ended (.error .cancelled) }
  | confirms {summary : RunSummary} (waits : state.caller = .committing summary true)
      (calm : state.requested = false) (carriedOut : state.commitSent = false) :
      CallerMove state
        { state with
          run := state.run.logging [cancelledEntry summary]
          caller := .ended (.error .cancelled) }
  | returns {summary : RunSummary} (waits : state.caller = .committing summary false)
      (calm : state.requested = false) (carriedOut : state.commitSent = false) :
      CallerMove state { state with caller := .ended (.ok summary) }

theorem RunMove.caller_eq (move : RunMove plan state next) :
    next.caller = state.caller ∧ next.requested = state.requested ∧
      next.commitSent = state.commitSent ∧ next.interrupted = state.interrupted ∧
        ∀ result, state.phase = .ended result → next = state := by
  cases move with
  | idle ended => exact ⟨rfl, rfl, rfl, rfl, fun _ _ => rfl⟩
  | interrupted running told =>
      exact ⟨rfl, rfl, rfl, rfl, fun result ended => absurd ended (running result)⟩
  | failed running calm sent cause =>
      exact ⟨rfl, rfl, rfl, rfl, fun result ended => absurd ended (running result)⟩
  | opened calm waits | returned calm waits sameLedger sameCount | begins calm waits goesOn
  | sends calm waits | closes calm waits unbroken =>
      refine ⟨rfl, rfl, rfl, rfl, fun result ended => ?_⟩
      rw [waits] at ended
      contradiction

theorem CallerMove.receive {waiting : Supervised} {cancelled : Bool}
    (awaits : state.Awaits waiting cancelled) : CallerMove state (waiting.receive cancelled) := by
  have samePhase : waiting.phase = state.phase := by cases awaits <;> rfl
  unfold Supervised.receive
  split
  · rename_i summary ended
    exact .commits awaits (samePhase ▸ ended)
  · rename_i error ended
    exact .fails awaits (samePhase ▸ ended)
  · rename_i notReturned notFailed
    apply CallerMove.waits awaits
    intro result ended
    cases result with
    | ok summary => exact notReturned summary (samePhase.trans ended)
    | error error => exact notFailed error (samePhase.trans ended)

/-- A turn of the caller is one of the moves. -/
theorem callerMove (state : Supervised) : CallerMove state state.takeCaller := by
  unfold takeCaller
  split
  · rename_i waits
    split
    · rename_i told
      exact .receive (.told waits told)
    · rename_i calm
      exact .receive (.shielded waits (Bool.eq_false_of_not_eq_true calm))
  · rename_i waits
    split
    · rename_i told
      exact .givesUp (.inl waits) told
    · rename_i calm
      exact .receive (.draining waits (Bool.eq_false_of_not_eq_true calm))
  · rename_i summary cancelled waits
    split
    · rename_i told
      exact .givesUp (.inr ⟨summary, cancelled, waits⟩) told
    · rename_i calm
      have calm := Bool.eq_false_of_not_eq_true calm
      split
      · exact .idle
      · rename_i carriedOut
        have carriedOut := Bool.eq_false_of_not_eq_true carriedOut
        cases cancelled with
        | true => exact .confirms waits calm carriedOut
        | false => exact .returns waits calm carriedOut
  · exact .idle

/-- The caller may tell a run to stop, and otherwise leaves it as it is. -/
theorem CallerMove.run_eq (move : CallerMove state next) :
    next.phase = state.phase ∧ next.session = state.session ∧
      next.interrupted = state.interrupted ∧ next.run.ledger = state.run.ledger ∧
        next.run.summary = state.run.summary ∧
          (state.run.stopping = true → next.run.stopping = true) := by
  cases move with
  | idle | givesUp | confirms | returns => exact ⟨rfl, rfl, rfl, rfl, rfl, id⟩
  | waits awaits running | commits awaits ended | fails awaits ended =>
      cases awaits with
      | shielded | draining => exact ⟨rfl, rfl, rfl, rfl, rfl, id⟩
      | told => exact ⟨rfl, rfl, rfl, rfl, rfl, fun _ => rfl⟩

/-- What a request does. -/
inductive RequestMove (state : Supervised) : Supervised → Prop
  | idle {result : Except CommitError RunSummary} (ended : state.caller = .ended result) :
      RequestMove state state
  | interrupts (waits : state.caller = .draining) (running : state.IsRunning) :
      RequestMove state { state with interrupted := true }
  | marks (waits : state.caller = .shielded ∨
        (state.caller = .draining ∧ ∃ result, state.phase = .ended result) ∨
          ∃ summary cancelled, state.caller = .committing summary cancelled) :
      RequestMove state { state with requested := true }

theorem requestMove (state : Supervised) : RequestMove state state.takeRequest := by
  unfold takeRequest
  split
  · rename_i ended
    exact .idle ended
  · rename_i found waits phase
    exact .interrupts waits (isRunning_of_eq phase (by simp))
  · rename_i rest waits phase
    exact .interrupts waits (isRunning_of_eq phase (by simp))
  · rename_i item statement later rest waits phase
    exact .interrupts waits (isRunning_of_eq phase (by simp))
  · rename_i notEnded notOpening notFetching notWorking
    apply RequestMove.marks
    cases waits : state.caller with
    | shielded => exact .inl rfl
    | draining =>
        refine .inr (.inl ⟨rfl, ?_⟩)
        cases phase : state.phase with
        | opening found => exact absurd phase (notOpening found waits)
        | fetching rest => exact absurd phase (notFetching rest waits)
        | working item statement later rest =>
            exact absurd phase (notWorking item statement later rest waits)
        | ended result => exact ⟨result, rfl⟩
    | committing summary cancelled => exact .inr (.inr ⟨summary, cancelled, rfl⟩)
    | ended result => exact absurd waits (notEnded result)

/-- A request changes nothing but who knows of it. -/
theorem RequestMove.state_eq (move : RequestMove state next) :
    next = { state with interrupted := next.interrupted, requested := next.requested } := by
  cases move <;> rfl

/-- What a turn may do. -/
inductive Move (plan : RunPlan) (state : Supervised) : Turn → Supervised → Prop
  | run {next : Supervised} (move : RunMove plan state next) : Move plan state .run next
  | caller {next : Supervised} (move : CallerMove state next) : Move plan state .caller next
  | carriesOut (sent : state.commitSent = true) :
      Move plan state .database
        { state with session := state.session.execute .commit, commitSent := false }
  | rests (unsent : state.commitSent = false) : Move plan state .database state
  | request {next : Supervised} (move : RequestMove state next) : Move plan state .request next

theorem move_take (plan : RunPlan) (state : Supervised) (turn : Turn) :
    Move plan state turn (state.take plan turn) := by
  cases turn with
  | run => exact .run (runMove plan state)
  | caller => exact .caller (callerMove state)
  | request => exact .request (requestMove state)
  | database =>
      change Move plan state .database state.takeDatabase
      unfold takeDatabase
      split
      · rename_i sent
        exact .carriesOut sent
      · rename_i unsent
        exact .rests (Bool.eq_false_of_not_eq_true unsent)

/-- What every move keeps, a history keeps. -/
theorem after_of_move {Holds : Supervised → Prop}
    (step : ∀ {state next turn}, Holds state → Move plan state turn next → Holds next)
    (holds : Holds state) : Holds (state.after plan turns) := by
  induction turns generalizing state with
  | nil => exact holds
  | cons turn rest ih => exact ih (step holds (move_take plan state turn))

end Supervised

end DeliveryCycle
