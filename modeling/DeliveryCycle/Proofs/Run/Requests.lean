import DeliveryCycle.Proofs.Run.Supervision

/-!
# Requests to end, and what they leave to the run

What the turns keep before the first request (`Quiet`), after it (`Told`, `Reached`, `Halted`), as
long as no request comes to the run or to the commit of its caller (`Undisturbed`), and once one has
come while the caller drained the run (`Doomed`). `Unfailing` is kept by a run that nothing can
break down.
-/

namespace DeliveryCycle

/-- The caller waits for the run itself or for its commit. -/
def CallerPhase.IsExposed : CallerPhase → Prop
  | .draining | .committing _ _ => True
  | .shielded | .ended _ => False

namespace Supervised

variable {plan : RunPlan} {state next : Supervised} {turn : Turn} {turns : List Turn}
variable {rows : List WorkItem} {store : Store} {bound : Nat}

section Requests

variable {waits : CallerPhase → Prop} {later : List Turn}

/-- A request comes in a history while the caller waits in a certain way. -/
def RequestedWhile (plan : RunPlan) (waits : CallerPhase → Prop) (state : Supervised) :
    List Turn → Prop
  | [] => False
  | turn :: rest =>
      (turn = .request ∧ waits state.caller) ∨ (state.take plan turn).RequestedWhile plan waits rest

theorem requestedWhile_append :
    state.RequestedWhile plan waits (turns ++ later) ↔
      state.RequestedWhile plan waits turns ∨
        (state.after plan turns).RequestedWhile plan waits later := by
  induction turns generalizing state with
  | nil => simp [RequestedWhile]
  | cons turn rest ih => simp only [List.cons_append, RequestedWhile, ih, or_assoc, after_cons]

theorem not_requestedWhile_of_not_mem (none : .request ∉ turns) :
    ¬state.RequestedWhile plan waits turns := by
  induction turns generalizing state with
  | nil => exact id
  | cons turn rest ih =>
      rcases List.ne_and_not_mem_of_not_mem_cons none with ⟨differs, later⟩
      rintro (⟨rfl, _⟩ | requested)
      · exact differs rfl
      · exact ih later requested

/-- What every move keeps that is not such a request, a history without such requests keeps. -/
theorem after_of_not_requestedWhile {Holds : Supervised → Prop}
    (step : ∀ {state next turn}, Holds state → (turn = .request → ¬waits state.caller) →
      Move plan state turn next → Holds next)
    (never : ¬state.RequestedWhile plan waits turns) (holds : Holds state) :
    Holds (state.after plan turns) := by
  induction turns generalizing state with
  | nil => exact holds
  | cons turn rest ih =>
      rcases not_or.mp never with ⟨spared, later⟩
      exact ih later (step holds (not_and.mp spared) (move_take plan state turn))

end Requests

section FirstRequest

/-- No request has come yet. -/
structure Quiet (state : Supervised) : Prop where
  calm : state.requested = false
  place : state.caller = .shielded ∨ ∃ result, state.phase = .ended result

theorem Quiet.callerMove (quiet : Quiet state) (move : CallerMove state next) : Quiet next := by
  have notTold {told : Prop} (requested : state.requested = true) : told := by
    simp [quiet.calm] at requested
  cases move with
  | idle => exact quiet
  | waits awaits running =>
      cases awaits with
      | shielded | draining => exact quiet
      | told waits told => exact notTold told
  | commits awaits ended | fails awaits ended =>
      cases awaits with
      | shielded | draining => exact ⟨quiet.calm, .inr ⟨_, ended⟩⟩
      | told waits told => exact notTold told
  | givesUp waits told => exact notTold told
  | confirms waits calm carriedOut | returns waits calm carriedOut =>
      rcases quiet.place with shielded | ended
      · simp [waits] at shielded
      · exact ⟨quiet.calm, .inr ended⟩

theorem Quiet.move (quiet : Quiet state) (differs : turn ≠ .request)
    (move : Move plan state turn next) : Quiet next := by
  cases move with
  | caller move => exact quiet.callerMove move
  | carriesOut sent => exact ⟨quiet.calm, quiet.place⟩
  | rests unsent => exact quiet
  | request move => exact absurd rfl differs
  | run move =>
      rcases move.caller_eq with ⟨sameCaller, sameRequests, _, _, sameEnd⟩
      rcases quiet.place with shielded | ⟨result, ended⟩
      · exact ⟨sameRequests.trans quiet.calm, .inl (sameCaller.trans shielded)⟩
      · rw [sameEnd result ended]
        exact quiet

theorem Quiet.after (quiet : Quiet state) (none : .request ∉ turns) :
    Quiet (state.after plan turns) := by
  have never : ¬state.RequestedWhile plan (fun _ => True) turns :=
    not_requestedWhile_of_not_mem none
  apply after_of_not_requestedWhile _ never quiet
  intro state next turn quiet spared move
  exact quiet.move (fun same => spared same trivial) move

end FirstRequest

section LaterTurns

/-- A request has come: the caller will not return a summary. -/
def Told (state : Supervised) : Prop :=
  match state.caller with
  | .shielded => state.requested = true
  | .draining => True
  | .committing _ cancelled => cancelled = true
  | .ended (.ok _) => False
  | .ended (.error _) => True

theorem Told.callerMove (told : Told state) (move : CallerMove state next) : Told next := by
  have notCalm {anything : Prop} (waits : state.caller = .shielded)
      (calm : state.requested = false) : anything := by
    simp [Told, waits, calm] at told
  cases move with
  | idle => exact told
  | waits awaits running =>
      cases awaits with
      | shielded waits calm => exact notCalm waits calm
      | told => trivial
      | draining => exact told
  | commits awaits ended =>
      cases awaits with
      | shielded waits calm => exact notCalm waits calm
      | told | draining => rfl
  | fails awaits ended => trivial
  | givesUp waits told => trivial
  | confirms waits calm carriedOut => trivial
  | returns waits calm carriedOut => simp [Told, waits] at told

theorem Told.move (told : Told state) (move : Move plan state turn next) : Told next := by
  cases move with
  | caller move => exact told.callerMove move
  | carriesOut sent => exact told
  | rests unsent => exact told
  | run move =>
      rcases move.caller_eq with ⟨sameCaller, sameRequests, _⟩
      unfold Told at told ⊢
      rw [sameCaller, sameRequests]
      exact told
  | request move =>
      cases move with
      | idle ended => exact told
      | interrupts waits running => exact told
      | marks waits =>
          unfold Told at told ⊢
          cases caller : state.caller with
          | shielded => rfl
          | draining => trivial
          | committing summary cancelled =>
              rw [caller] at told
              exact told
          | ended result =>
              rw [caller] at told
              cases result <;> exact told

/-- How many candidates the run has started. -/
def started (state : Supervised) : Nat :=
  match state.phase with
  | .working .. => state.run.summary.candidates + 1
  | _ => state.run.summary.candidates

/-- The run has started this many candidates, or has failed. -/
def Reached (bound : Nat) (state : Supervised) : Prop :=
  bound ≤ state.started ∨ ∃ error, state.phase = .ended (.error error)

/-- The run starts no candidate after this many, or has failed. -/
def Halted (bound : Nat) (state : Supervised) : Prop :=
  (state.started ≤ bound ∧
      (state.run.stopping = true ∨ ∃ summary, state.phase = .ended (.ok summary))) ∨
    ∃ error, state.phase = .ended (.error error)

theorem started_congr (samePhase : next.phase = state.phase)
    (sameSummary : next.run.summary = state.run.summary) : next.started = state.started := by
  unfold started
  rw [samePhase, sameSummary]

/-- A turn of a run that goes on may start one more candidate, unless it was told to stop. -/
theorem RunMove.started_cases (move : RunMove plan state next) :
    next = state ∨ (∃ error, next.phase = .ended (.error error)) ∨
      state.IsRunning ∧
        ((next.started = state.started ∧ (state.run.stopping = true →
            next.run.stopping = true ∨ ∃ summary, next.phase = .ended (.ok summary))) ∨
          (next.started = state.started + 1 ∧ state.run.stopping = false)) := by
  cases move with
  | idle ended => exact .inl rfl
  | interrupted running told | failed running calm sent cause => exact .inr (.inl ⟨_, rfl⟩)
  | opened calm waits | sends calm waits =>
      have running : state.IsRunning := isRunning_of_eq waits (by simp)
      exact .inr (.inr ⟨running, .inl ⟨by simp [started, waits], .inl⟩⟩)
  | returned calm waits sameLedger sameCount =>
      have running : state.IsRunning := isRunning_of_eq waits (by simp)
      exact .inr (.inr ⟨running, .inl ⟨by simp [started, waits, sameCount], fun _ => .inr ⟨_, rfl⟩⟩⟩)
  | begins calm waits goesOn =>
      have running : state.IsRunning := isRunning_of_eq waits (by simp)
      exact .inr (.inr ⟨running, .inr ⟨by simp [started, waits], goesOn⟩⟩)
  | @closes item statement rest calm waits unbroken =>
      have running : state.IsRunning := isRunning_of_eq waits (by simp)
      have stillStopping (stopping : state.run.stopping = true) :
          (plan.processed state.run item).stopping = true := by
        simp [RunPlan.processed, stopping]
      refine .inr (.inr ⟨running, .inl ⟨?_, fun stopping => .inl (stillStopping stopping)⟩⟩)
      simp only [started, waits]
      rfl

theorem Reached.runMove (reached : Reached bound state) (move : RunMove plan state next) :
    Reached bound next := by
  rcases move.started_cases with rfl | failed | ⟨running, goesOn⟩
  · exact reached
  · exact .inr failed
  · rcases reached with atLeast | ⟨error, failed⟩
    · rcases goesOn with ⟨same, _⟩ | ⟨more, _⟩
      · exact .inl (atLeast.trans (Nat.le_of_eq same.symm))
      · exact .inl (more ▸ Nat.le_succ_of_le atLeast)
    · exact absurd failed (running _)

theorem Reached.move (reached : Reached bound state) (move : Move plan state turn next) :
    Reached bound next := by
  cases move with
  | run move => exact reached.runMove move
  | carriesOut sent => exact reached
  | rests unsent => exact reached
  | caller move =>
      rcases move.run_eq with ⟨samePhase, _, _, _, sameSummary, _⟩
      unfold Reached
      rw [started_congr samePhase sameSummary, samePhase]
      exact reached
  | request move =>
      rw [move.state_eq]
      exact reached

theorem Halted.runMove (halted : Halted bound state) (move : RunMove plan state next) :
    Halted bound next := by
  rcases move.started_cases with rfl | failed | ⟨running, goesOn⟩
  · exact halted
  · exact .inr failed
  · rcases halted with ⟨atMost, stopping | ⟨summary, ended⟩⟩ | ⟨error, failed⟩
    · rcases goesOn with ⟨same, stillStopping⟩ | ⟨_, notStopping⟩
      · exact .inl ⟨same ▸ atMost, stillStopping stopping⟩
      · simp [stopping] at notStopping
    · exact absurd ended (running _)
    · exact absurd failed (running _)

theorem Halted.move (halted : Halted bound state) (move : Move plan state turn next) :
    Halted bound next := by
  cases move with
  | run move => exact halted.runMove move
  | carriesOut sent => exact halted
  | rests unsent => exact halted
  | caller move =>
      rcases move.run_eq with ⟨samePhase, _, _, _, sameSummary, stillStopping⟩
      unfold Halted
      rw [started_congr samePhase sameSummary, samePhase]
      exact halted.imp_left (And.imp_right (Or.imp_left stillStopping))
  | request move =>
      rw [move.state_eq]
      exact halted

end LaterTurns

section Undisturbed

/-- No request has come to the run, nor to its caller while it waits for its commit. -/
structure Undisturbed (store : Store) (state : Supervised) : Prop where
  uninterrupted : state.interrupted = false
  alive : state.phase ≠ .ended (.error .cancelled)
  unasked : state.caller.IsExposed → state.requested = false
  kept : state.caller = .ended (.error .cancelled) →
    (∃ summary, state.phase = .ended (.ok summary)) ∧ state.commitSent = false ∧
      state.session.committed = store.withLedger state.run.ledger

theorem Undisturbed.runMove (undisturbed : Undisturbed store state)
    (move : RunMove plan state next) : Undisturbed store next := by
  rcases move.caller_eq with ⟨sameCaller, sameRequests, _, sameInterrupted, sameEnd⟩
  refine ⟨sameInterrupted.trans undisturbed.uninterrupted, ?_, ?_, ?_⟩
  · cases move with
    | idle ended => exact undisturbed.alive
    | interrupted running told => simp [undisturbed.uninterrupted] at told
    | failed running calm sent cause => simp
    | opened | returned | begins | sends | closes => simp
  · rw [sameCaller, sameRequests]
    exact undisturbed.unasked
  · intro ended
    have kept := undisturbed.kept (sameCaller.symm.trans ended)
    rcases kept with ⟨⟨summary, returned⟩, _⟩
    rw [sameEnd _ returned]
    exact undisturbed.kept (sameCaller.symm.trans ended)

theorem Undisturbed.callerMove (undisturbed : Undisturbed store state)
    (caller : CallerSound store state) (move : CallerMove state next) : Undisturbed store next := by
  rcases move.run_eq with ⟨samePhase, _, sameInterrupted, _⟩
  have uninterrupted := sameInterrupted.trans undisturbed.uninterrupted
  have alive : next.phase ≠ .ended (.error .cancelled) := samePhase ▸ undisturbed.alive
  have unaskedOf {waiting : Supervised} {cancelled : Bool}
      (awaits : state.Awaits waiting cancelled) : waiting.requested = false := by
    cases awaits with
    | shielded waits calm | draining waits calm => exact calm
    | told => rfl
  cases move with
  | idle => exact undisturbed
  | waits awaits running =>
      have notEnded {waiting : Supervised} {cancelled : Bool}
          (awaits : state.Awaits waiting cancelled) :
          waiting.caller ≠ .ended (.error .cancelled) := by
        cases awaits with
        | shielded waits calm | draining waits calm => simp [waits]
        | told => simp [drain]
      exact ⟨uninterrupted, alive, fun _ => unaskedOf awaits,
        fun ended => absurd ended (notEnded awaits)⟩
  | @commits waiting cancelled summary awaits ended =>
      have unasked : waiting.requested = false := unaskedOf awaits
      exact ⟨uninterrupted, alive, fun _ => unasked, fun ended => by simp at ended⟩
  | fails awaits failed =>
      refine ⟨uninterrupted, alive, fun exposed => exposed.elim, fun ended => ?_⟩
      simp only [CallerPhase.ended.injEq, Except.error.injEq] at ended
      exact absurd (ended ▸ failed) undisturbed.alive
  | givesUp waits told =>
      have exposed : state.caller.IsExposed := by
        rcases waits with waits | ⟨summary, cancelled, waits⟩
        · rw [waits]; trivial
        · rw [waits]; trivial
      simp [undisturbed.unasked exposed] at told
  | confirms waits calm carriedOut =>
      simp only [CallerSound, waits, carriedOut] at caller
      exact ⟨uninterrupted, alive, fun exposed => exposed.elim,
        fun _ => ⟨⟨_, caller.1⟩, carriedOut, caller.2⟩⟩
  | returns waits calm carriedOut =>
      exact ⟨uninterrupted, alive, fun exposed => exposed.elim, fun ended => by simp at ended⟩

theorem Undisturbed.requestMove (undisturbed : Undisturbed store state)
    (spared : ¬state.caller.IsExposed) (move : RequestMove state next) :
    Undisturbed store next := by
  cases move with
  | idle ended => exact undisturbed
  | interrupts waits running => exact absurd (waits ▸ trivial) spared
  | marks waits =>
      exact ⟨undisturbed.uninterrupted, undisturbed.alive, fun exposed => absurd exposed spared,
        undisturbed.kept⟩

theorem Undisturbed.move (undisturbed : Undisturbed store state)
    (caller : CallerSound store state) (spared : turn = .request → ¬state.caller.IsExposed)
    (move : Move plan state turn next) : Undisturbed store next := by
  cases move with
  | run move => exact undisturbed.runMove move
  | caller move => exact undisturbed.callerMove caller move
  | request move => exact undisturbed.requestMove (spared rfl) move
  | rests unsent => exact undisturbed
  | carriesOut sent =>
      refine ⟨undisturbed.uninterrupted, undisturbed.alive, undisturbed.unasked, fun ended => ?_⟩
      simp [(undisturbed.kept ended).2.1] at sent

end Undisturbed

section Doomed

/-- A request has come while the caller drained the run. -/
structure Doomed (store : Store) (state : Supervised) : Prop where
  unchanged : state.session.committed = store
  unsent : state.commitSent = false
  fate : state.caller = .ended (.error .cancelled) ∨
    state.caller = .draining ∧
      (state.requested = true ∨ state.phase = .ended (.error .cancelled) ∨
        state.interrupted = true ∧ state.IsRunning)

theorem Doomed.runMove (doomed : Doomed store state) (run : RunSound plan rows store state)
    (move : RunMove plan state next) : Doomed store next := by
  rcases move.caller_eq with ⟨sameCaller, sameRequests, sameSent, _, sameEnd⟩
  refine ⟨(committed_of_runMove run move).trans doomed.unchanged, sameSent.trans doomed.unsent, ?_⟩
  rw [sameCaller, sameRequests]
  refine doomed.fate.imp_right (And.imp_right (Or.imp_right ?_))
  rintro (cancelled | ⟨interrupted, running⟩)
  · rw [sameEnd _ cancelled]
    exact .inl cancelled
  · -- A run that was interrupted does nothing but end.
    cases move with
    | idle ended => exact absurd ended (running _)
    | interrupted running told => exact .inl rfl
    | failed _ calm | opened calm | returned calm | begins calm | sends calm | closes calm =>
        simp [interrupted] at calm

theorem Doomed.callerMove (doomed : Doomed store state) (move : CallerMove state next) :
    Doomed store next := by
  rcases doomed with ⟨unchanged, unsent, ended | ⟨draining, fate⟩⟩
  · -- The caller has ended.
    cases move with
    | idle => exact ⟨unchanged, unsent, .inl ended⟩
    | givesUp waits told => exact ⟨unchanged, unsent, .inl rfl⟩
    | confirms waits | returns waits => simp [ended] at waits
    | waits awaits running | commits awaits | fails awaits =>
        cases awaits with
        | shielded waits | told waits | draining waits => simp [ended] at waits
  · cases move with
    | idle => exact ⟨unchanged, unsent, .inr ⟨draining, fate⟩⟩
    | givesUp waits told => exact ⟨unchanged, unsent, .inl rfl⟩
    | confirms waits | returns waits => simp [draining] at waits
    | waits awaits running =>
        cases awaits with
        | shielded waits | told waits => simp [draining] at waits
        | draining => exact ⟨unchanged, unsent, .inr ⟨draining, fate⟩⟩
    | commits awaits ended =>
        cases awaits with
        | shielded waits | told waits => simp [draining] at waits
        | draining waits calm =>
            rcases fate with told | cancelled | ⟨_, running⟩
            · simp [calm] at told
            · simp [ended] at cancelled
            · exact absurd ended (running _)
    | fails awaits failed =>
        cases awaits with
        | shielded waits | told waits => simp [draining] at waits
        | draining waits calm =>
            rcases fate with told | cancelled | ⟨_, running⟩
            · simp [calm] at told
            · simp only [failed, RunPhase.ended.injEq, Except.error.injEq] at cancelled
              exact ⟨unchanged, unsent, .inl (cancelled ▸ rfl)⟩
            · exact absurd failed (running _)

theorem Doomed.requestMove (doomed : Doomed store state) (move : RequestMove state next) :
    Doomed store next := by
  refine ⟨?_, ?_, ?_⟩
  · rw [move.state_eq]; exact doomed.unchanged
  · rw [move.state_eq]; exact doomed.unsent
  · cases move with
    | idle ended => exact doomed.fate
    | interrupts waits running => exact .inr ⟨waits, .inr (.inr ⟨rfl, running⟩)⟩
    | marks waits => exact doomed.fate.imp_right (And.imp_right fun _ => .inl rfl)

theorem Doomed.move (doomed : Doomed store state) (run : RunSound plan rows store state)
    (move : Move plan state turn next) : Doomed store next := by
  cases move with
  | run move => exact doomed.runMove run move
  | caller move => exact doomed.callerMove move
  | request move => exact doomed.requestMove move
  | rests unsent => exact doomed
  | carriesOut sent => simp [doomed.unsent] at sent

/-- A request while the caller drains the run. -/
theorem Doomed.of_requestMove (caller : CallerSound store state) (waits : state.caller = .draining)
    (move : RequestMove state next) : Doomed store next := by
  simp only [CallerSound, waits] at caller
  rcases caller with ⟨unchanged, unsent⟩
  cases move with
  | idle ended => simp [waits] at ended
  | interrupts _ running => exact ⟨unchanged, unsent, .inr ⟨waits, .inr (.inr ⟨rfl, running⟩)⟩⟩
  | marks _ => exact ⟨unchanged, unsent, .inr ⟨waits, .inl rfl⟩⟩

end Doomed

section Unfailing

/-- Nothing that the run waits for can fail. -/
def Unfailing (state : Supervised) : Prop :=
  match state.phase with
  | .opening (.error _) | .ended (.error (.failed _)) => False
  | .opening (.ok found) => found.failure = none
  | .fetching rest | .working _ _ _ rest => rest.failure = none
  | .ended _ => True

theorem Unfailing.runMove (unfailing : Unfailing state) (steady : plan.Steady)
    (move : RunMove plan state next) : Unfailing next := by
  cases move with
  | idle ended => exact unfailing
  | interrupted running told => trivial
  | returned calm waits => trivial
  | opened calm waits | begins calm waits | sends calm waits | closes calm waits =>
      simp only [Unfailing, waits] at unfailing
      exact unfailing
  | failed running calm sent cause =>
      rcases cause with ⟨error, waits⟩ | ⟨rest, waits, failure⟩ | unsteady
      · simp [Unfailing, waits] at unfailing
      · simp only [Unfailing, waits] at unfailing
        exact absurd unfailing failure
      · exact absurd steady unsteady

theorem Unfailing.move (unfailing : Unfailing state) (steady : plan.Steady)
    (move : Move plan state turn next) : Unfailing next := by
  cases move with
  | run move => exact unfailing.runMove steady move
  | carriesOut sent => exact unfailing
  | rests unsent => exact unfailing
  | caller move =>
      unfold Unfailing
      rw [move.run_eq.1]
      exact unfailing
  | request move =>
      rw [move.state_eq]
      exact unfailing

end Unfailing

end Supervised

end DeliveryCycle
