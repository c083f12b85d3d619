import DeliveryCycle.Api.CycleTimes
import DeliveryCycle.Api.Route
import DeliveryCycle.Api.Runs

/-!
# The service

The service answers requests one after the other. It reads the ledger and never changes it; what it
keeps between requests is the run that is tracked and the wire to the workflow service.
-/

namespace DeliveryCycle.Api

structure ServiceState where
  tracking : Tracking
  wire : Remote.Wire

def ServiceState.initial : ServiceState := ⟨none, .empty⟩

/-- Starts a run and waits for the answer. -/
def startRun (environment : Environment) (state : ServiceState) (body : String) :
    Handled × ServiceState :=
  match beginStart environment state.wire body with
  | (.error handled, wire) => (handled, { state with wire := wire })
  | (.ok start, wire) =>
      let (handled, tracking) := start.finish state.tracking
      (handled, ⟨tracking, wire⟩)

/-- Asks for the status of the tracked run and waits for the answer. -/
def showStatus (environment : Environment) (state : ServiceState) : Handled × ServiceState :=
  match beginStatus environment state.wire state.tracking with
  | (.error handled, wire) => (handled, { state with wire := wire })
  | (.ok poll, wire) =>
      let (handled, tracking) := poll.finish state.tracking
      (handled, ⟨tracking, wire⟩)

def Endpoint.handle (endpoint : Endpoint) (environment : Environment) (ledger : Ledger)
    (state : ServiceState) (request : Request) : Handled × ServiceState :=
  match endpoint with
  | .health => (.quiet (.success (.object [("status", .string "healthy")])), state)
  | .taskList => (⟨listTasks ledger request, []⟩, state)
  | .task connectionId taskId =>
      (⟨showTask ledger (String.ofList connectionId) (String.ofList taskId), []⟩, state)
  | .summary => (⟨showSummary ledger request, []⟩, state)
  | .startRun => Api.startRun environment state request.body
  | .runStatus => showStatus environment state

/-- The response of the endpoint that a request leads to. -/
def respond (environment : Environment) (ledger : Ledger) (state : ServiceState)
    (request : Request) : Handled × ServiceState :=
  match route request.method request.path with
  | .endpoint endpoint => endpoint.handle environment ledger state request
  | .wrongMethod => (.quiet (.problem 405 "Method Not Allowed"), state)
  | .redirect => (.quiet ⟨307, none⟩, state)
  | .notFound => (.quiet (.problem 404 "Not Found"), state)

/-- The response as it is sent; a request with the method `HEAD` gets no body. -/
def Handled.sent (handled : Handled) (request : Request) : Handled :=
  if request.method = "HEAD" then
    { handled with result := handled.result.map fun response => ⟨response.status, none⟩ }
  else handled

def handle (environment : Environment) (ledger : Ledger) (state : ServiceState)
    (request : Request) : Handled × ServiceState :=
  let (handled, state) := respond environment ledger state request
  (handled.sent request, state)

end DeliveryCycle.Api
