import DeliveryCycle.Run.Statements

/-!
# Runs and their callers

Whoever commits a run starts it as a task of its own and waits for it. `Supervised` is what there is
of the two between two turns: the run waits for its cursor, for a row or for one of its statements,
the caller waits for the run or for its commit, and in between the caller may be requested to end.
A history is any list of turns.

The caller waits behind a shield at first. A request then does not reach the run; once the caller
goes on, it tells the run to stop and waits on, now for the run itself. From there on a request
reaches the run and ends it at whatever it waits for, or takes the place of its summary if the run
has already ended. Either way the caller has nothing to commit.
-/

namespace DeliveryCycle

/-- Where a run is between two of its turns. -/
inductive RunPhase where
  /-- It waits for its cursor, which turns out like this. -/
  | opening (found : Except RunError (Fetched WorkItem))
  /-- It waits for the next one of the rows that are left. -/
  | fetching (rest : Fetched WorkItem)
  /-- It works on a candidate and waits for a statement; others follow. -/
  | working (item : WorkItem) (statement : Statement) (later : List Statement)
      (rest : Fetched WorkItem)
  | ended (result : Except CommitError RunSummary)

/-- Where the caller of a run is between two of its turns. -/
inductive CallerPhase where
  /-- It waits for the run behind a shield. -/
  | shielded
  /-- It was cancelled and waits for the run itself. -/
  | draining
  /-- It waits for its commit, and may have been cancelled before. -/
  | committing (summary : RunSummary) (cancelled : Bool)
  | ended (result : Except CommitError RunSummary)

structure Supervised where
  session : Session
  run : RunState
  phase : RunPhase
  /-- The run was ended from outside and does not know it yet. -/
  interrupted : Bool
  caller : CallerPhase
  /-- The caller was requested to end and does not know it yet. -/
  requested : Bool
  /-- A commit was sent and is not carried out yet. -/
  commitSent : Bool

/-- Goes back to the savepoint that is open, if there is one. -/
def Session.undo (session : Session) : Session :=
  match session.savepoints with
  | [] => session
  | _ :: _ => session.execute .rollBack

/-- The same request without anything that tells its run to stop. -/
def RunRequest.unstopped (request : RunRequest) : RunRequest :=
  { request with
    signals := { Signals.none with reportBreakdown := request.signals.reportBreakdown } }

namespace Supervised

/-- A run that is about to open its cursor, and its caller. -/
def start (plan : RunPlan) (environment : Environment) (batchSize : Option Int) (store : Store) :
    Supervised where
  session := .onStore store
  run := .start plan store.ledger
  phase := .opening (plan.candidates environment batchSize)
  interrupted := false
  caller := .shielded
  requested := false
  commitSent := false

/-- The run ends in a state with a result. -/
def endRun (state : Supervised) (last : RunState) (result : RunResult) : Supervised :=
  { state with
    run := { last with log := result.log }
    phase := .ended (result.result.mapError .failed) }

/-- The run has closed the savepoint of a candidate. -/
def closeCandidate (plan : RunPlan) (state : Supervised) (item : WorkItem)
    (rest : Fetched WorkItem) : Supervised :=
  match state.run.advance plan item with
  | (run, .error error) => state.endRun run (run.finish (.error (.breakdown error)))
  | (run, .ok ()) =>
      match run.report plan.signals with
      | (run, some error) => state.endRun run (run.finish (.error (.breakdown error)))
      | (run, none) => { state with run := run, phase := .fetching rest }

/-- The run gets what it waits for and goes on until it has to wait again. -/
def advanceRun (plan : RunPlan) (state : Supervised) : Supervised :=
  match state.phase with
  | .opening (.error error) => state.endRun state.run (state.run.finish (.error error))
  | .opening (.ok found) => { state with phase := .fetching found }
  | .fetching ⟨[], failure⟩ => state.endRun state.run (state.run.conclude failure)
  | .fetching ⟨item :: rest, failure⟩ =>
      if state.run.stopping then
        state.endRun state.run.stop (state.run.stop.conclude failure)
      else
        let later := plan.writingStatements item ++ [plan.closingStatement state.run.ledger item]
        { state with phase := .working item .savepoint later ⟨rest, failure⟩ }
  | .working item statement later rest =>
      let state := { state with session := state.session.execute statement }
      match later with
      | [] => state.closeCandidate plan item rest
      | next :: later => { state with phase := .working item next later rest }
  | .ended _ => state

def takeRun (plan : RunPlan) (state : Supervised) : Supervised :=
  match state.phase, state.interrupted with
  | .ended _, _ => state
  | _, true =>
      { state with session := state.session.undo, phase := .ended (.error .cancelled) }
  | _, false => state.advanceRun plan

/-- The caller goes on if the run has ended: it commits a run that returned. -/
def receive (state : Supervised) (cancelled : Bool) : Supervised :=
  match state.phase with
  | .ended (.ok summary) =>
      { state with caller := .committing summary cancelled, commitSent := true }
  | .ended (.error error) => { state with caller := .ended (.error error) }
  | _ => state

/-- The caller learns of a request while it is shielded. It tells the run to stop and drains it. -/
def drain (state : Supervised) : Supervised :=
  { state with
    requested := false
    run := { state.run with stopping := true }
    caller := .draining }

def takeCaller (state : Supervised) : Supervised :=
  match state.caller with
  | .shielded => if state.requested then state.drain.receive true else state.receive false
  | .draining =>
      if state.requested then { state with caller := .ended (.error .cancelled) }
      else state.receive true
  | .committing summary cancelled =>
      if state.requested then { state with caller := .ended (.error .cancelled) }
      else if state.commitSent then state
      else if cancelled then
        { state with
          run := state.run.logging [cancelledEntry summary]
          caller := .ended (.error .cancelled) }
      else { state with caller := .ended (.ok summary) }
  | .ended _ => state

def takeDatabase (state : Supervised) : Supervised :=
  if state.commitSent then
    { state with session := state.session.execute .commit, commitSent := false }
  else state

/-- A request reaches the run if nothing stands between the two, and the caller otherwise. -/
def takeRequest (state : Supervised) : Supervised :=
  match state.caller, state.phase with
  | .ended _, _ => state
  | .draining, .opening _ | .draining, .fetching _ | .draining, .working .. =>
      { state with interrupted := true }
  | _, _ => { state with requested := true }

inductive Turn where
  | run
  | caller
  | database
  /-- The caller is requested to end. -/
  | request
deriving DecidableEq, Repr

def take (plan : RunPlan) (state : Supervised) : Turn → Supervised
  | .run => state.takeRun plan
  | .caller => state.takeCaller
  | .database => state.takeDatabase
  | .request => state.takeRequest

def after (plan : RunPlan) (state : Supervised) (turns : List Turn) : Supervised :=
  turns.foldl (take plan) state

end Supervised

end DeliveryCycle
