import DeliveryCycle.Record.Session
import DeliveryCycle.Run.Commit

/-!
# What a run sends to its session

A run works in the session of whoever started it. For each candidate it opens a savepoint, which it
releases if the work on the candidate ended, and to which it rolls back if the work was interrupted
by a failure of the storage or by a breakdown. The run itself never commits. Whoever started it
commits if it returned, also if its caller was cancelled in the meantime, and commits nothing if it
failed.
-/

namespace DeliveryCycle

namespace RunPlan

/-- The record that the work on a candidate comes to write, also if it is interrupted after that. -/
def sentRecord? (plan : RunPlan) (item : WorkItem) : Option (CycleRecord Moment) :=
  if (plan.faults.resolving item.key).isSome || plan.faults.overlooked item.key ||
      (plan.faults.beforeWrite item.key).isSome then none
  else (resolve .usual plan.collected plan.project item).correlation.map (·.momentRecord)

/-- The statements of the work on a candidate inside its savepoint. -/
def writingStatements (plan : RunPlan) (item : WorkItem) : List Statement :=
  match plan.sentRecord? item with
  | some record => [.dropOthers record, .insertOrReplace record]
  | none => []

/-- The statement that closes the savepoint of a candidate. -/
def closingStatement (plan : RunPlan) (ledger : Ledger) (item : WorkItem) : Statement :=
  match (workOn plan.faults plan.collected plan.project ledger item).result with
  | .ok _ => .release
  | .error _ => .rollBack

def candidateStatements (plan : RunPlan) (ledger : Ledger) (item : WorkItem) : List Statement :=
  .savepoint :: (plan.writingStatements item ++ [plan.closingStatement ledger item])

end RunPlan

/-- The statements of a walk over candidates, as far as the walk comes. -/
def RunState.walkStatements (plan : RunPlan) (state : RunState) : List WorkItem → List Statement
  | [] => []
  | item :: rest =>
      if state.stopping then []
      else
        plan.candidateStatements state.ledger item ++
          match state.advance plan item with
          | (_, .error _) => []
          | (state, .ok ()) =>
              match state.report plan.signals with
              | (_, some _) => []
              | (state, none) => walkStatements plan state rest

/-- The statements of a run; a run whose cursor cannot be opened sends none. -/
def RunPlan.statements (plan : RunPlan) (environment : Environment) (batchSize : Option Int)
    (ledger : Ledger) : List Statement :=
  match plan.candidates environment batchSize with
  | .error _ => []
  | .ok candidates => (RunState.start plan ledger).walkStatements plan candidates.rows

/-- The statements of a run and of whoever started it. -/
def RunRequest.statements (request : RunRequest) (environment : Environment) (store : Store)
    (options : RunOptions) : List Statement :=
  let plan := request.plan store options
  plan.statements environment request.batchSize store.ledger ++
    match (plan.run environment request.batchSize store.ledger).result with
    | .error _ => []
    | .ok _ => [.commit]

end DeliveryCycle
