import DeliveryCycle.Api.Message

/-!
# Routes

Every endpoint has one path and one method. A path is matched in its decoded form, so that a slash
separates parts of it however the slash was written. One line break at the end of the path of an
endpoint is ignored. A path that leads to an endpoint once the slashes at its end are dropped is
redirected.
-/

namespace DeliveryCycle.Api

/-- An endpoint with what its path holds. -/
inductive Endpoint where
  | health
  | taskList
  | task (connectionId taskId : List Char)
  | summary
  | startRun
  | runStatus
deriving DecidableEq, Repr

def Endpoint.method : Endpoint → String
  | .startRun => "POST"
  | _ => "GET"

/-- The paths of endpoints that hold nothing. -/
def fixedPaths : List (String × Endpoint) :=
  [("/api/v1/cycle-time/tasks", .taskList), ("/api/v1/cycle-time/summary", .summary),
    ("/api/v1/runs/start", .startRun), ("/api/v1/runs/status", .runStatus), ("/health", .health)]

/-- The path in front of the connection and the task. -/
def taskPath : List Char := "/api/v1/cycle-time/tasks/".toList

/-- The connection and the task in the rest of a path. -/
def taskOf? (rest : List Char) : Option Endpoint :=
  match Text.segments '/' rest with
  | [connectionId, taskId] =>
      if connectionId.isEmpty || taskId.isEmpty then none else some (.task connectionId taskId)
  | _ => none

def endpoint? (path : List Char) : Option Endpoint :=
  let fixed := fixedPaths.find? fun (known, _) =>
    path = known.toList || path = known.toList ++ ['\n']
  match fixed with
  | some (_, endpoint) => some endpoint
  | none => (taskPath.isPrefixOf? path).bind taskOf?

def withoutSlashes (path : List Char) : List Char :=
  (path.reverse.dropWhile (· = '/')).reverse

inductive Route where
  | endpoint (endpoint : Endpoint)
  | wrongMethod
  | redirect
  | notFound
deriving DecidableEq, Repr

/-- Where a method and a path lead. -/
def route (method : String) (path : List Char) : Route :=
  match endpoint? path with
  | some endpoint => if method = endpoint.method then .endpoint endpoint else .wrongMethod
  | none =>
      if path.getLast? = some '/' && path ≠ ['/'] && (endpoint? (withoutSlashes path)).isSome then
        .redirect
      else .notFound

end DeliveryCycle.Api
