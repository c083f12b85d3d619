import DeliveryCycle.Api.Service

/-!
# Handlers that take turns

The handlers of starts and polls wait for the workflow service in their middle, and while one of
them waits others take their turns. `Concurrent` is the service between two turns, together with the
handlers that wait. In a `Turn` either a start or a poll arrives, sends its question and begins to
wait, or one that waits gets its reply and goes on to its end. A handler that answers at once takes
one turn.

A history is any list of turns over any wire. `startRun` and `showStatus` are the histories in which
a handler goes on right after it arrived.
-/

namespace DeliveryCycle.Api

/-- The service between two turns, with the handlers that wait in the order of their arrival. -/
structure Concurrent where
  tracking : Tracking
  wire : Remote.Wire
  starts : List PendingStart
  polls : List PendingStatus

/-- The step of one handler; a handler that waits is named by its position among those like it. -/
inductive Turn where
  | startArrives (environment : Environment) (body : String)
  | startResumes (position : Nat)
  | pollArrives (environment : Environment)
  | pollResumes (position : Nat)

def Concurrent.initial (wire : Remote.Wire) : Concurrent := ⟨none, wire, [], []⟩

/-- The service after a turn; no handler waits at a position that is too great. -/
def Turn.take (turn : Turn) (state : Concurrent) : Concurrent :=
  match turn with
  | .startArrives environment body =>
      match beginStart environment state.wire body with
      | (.error _, wire) => { state with wire := wire }
      | (.ok start, wire) => { state with wire := wire, starts := state.starts ++ [start] }
  | .startResumes position =>
      match state.starts[position]? with
      | none => state
      | some start =>
          { state with
            tracking := (start.finish state.tracking).2
            starts := state.starts.eraseIdx position }
  | .pollArrives environment =>
      match beginStatus environment state.wire state.tracking with
      | (.error _, wire) => { state with wire := wire }
      | (.ok poll, wire) => { state with wire := wire, polls := state.polls ++ [poll] }
  | .pollResumes position =>
      match state.polls[position]? with
      | none => state
      | some poll =>
          { state with
            tracking := (poll.finish state.tracking).2
            polls := state.polls.eraseIdx position }

def Concurrent.after (state : Concurrent) (turns : List Turn) : Concurrent :=
  turns.foldl (fun current turn => turn.take current) state

/-- A service in which no handler waits. -/
def ServiceState.resting (state : ServiceState) : Concurrent := ⟨state.tracking, state.wire, [], []⟩

/-- A start that does not have to wait for others is the history of its two turns. -/
theorem after_start_eq_startRun (environment : Environment) (state : ServiceState)
    (body : String) :
    state.resting.after [.startArrives environment body, .startResumes 0] =
      (startRun environment state body).2.resting := by
  simp only [Concurrent.after, List.foldl_cons, List.foldl_nil, Turn.take, startRun,
    ServiceState.resting]
  rcases beginStart environment state.wire body with ⟨handled | start, wire⟩ <;> rfl

/-- A poll that does not have to wait for others is the history of its two turns. -/
theorem after_poll_eq_showStatus (environment : Environment) (state : ServiceState) :
    state.resting.after [.pollArrives environment, .pollResumes 0] =
      (showStatus environment state).2.resting := by
  simp only [Concurrent.after, List.foldl_cons, List.foldl_nil, Turn.take, showStatus,
    ServiceState.resting]
  rcases beginStatus environment state.wire state.tracking with ⟨handled | poll, wire⟩ <;> rfl

end DeliveryCycle.Api
