import DeliveryCycle.Remote.Client
import DeliveryCycle.Validation.Signature

/-!
# Operations of the client

The two operations of a client can be chosen by name and are then given a list of arguments of any
kind. A task is named by the text of its argument.
-/

namespace DeliveryCycle.Remote

/-- An operation of a client with its arguments. -/
inductive Operation where
  | start (task arguments : Json)
  | report (runId : Json)
deriving Repr

/-- Why there is no operation. -/
inductive OperationError where
  | unknown (name : String)
  | refused (error : ArgumentError)
deriving DecidableEq, Repr

def startName : String := "run_task"

def reportName : String := "get_task_run"

/-- The parameters of an operation, of which the client itself is the first. -/
def operationSignature (name required : String) (optional : Nat) : Signature :=
  ⟨"RenderWorkflowClient." ++ name, required, optional, 1⟩

namespace Operation

/-- The operation with a name and arguments. -/
def ofArguments (name : String) (arguments : List Json) : Except OperationError Operation :=
  if name = startName then do
    let (task, others) ← ((operationSignature name "task_name" 1).bind arguments).mapError .refused
    return .start task (others.headD .null)
  else if name = reportName then do
    let (runId, _) ← ((operationSignature name "run_id" 0).bind arguments).mapError .refused
    return .report runId
  else .error (.unknown name)

def run (operation : Operation) (client : Client) (wire : Wire) : Except CallError Json × Wire :=
  match operation with
  | .start task arguments =>
      let (result, wire) := client.startTask wire task.display arguments
      (result.map (·.toJson), wire)
  | .report runId =>
      let (result, wire) := client.runReport wire runId
      (result.map (·.toJson), wire)

end Operation

end DeliveryCycle.Remote
