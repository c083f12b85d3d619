import DeliveryCycle.Address.Join
import DeliveryCycle.Json.Display
import DeliveryCycle.Json.Reader
import DeliveryCycle.Json.Writer
import DeliveryCycle.Remote.Origin
import DeliveryCycle.Settings.Environment

/-!
# The client of the workflow service

Runs are started through a workflow service that is asked over HTTP. A client needs a key and the
name of the workflow; what it is not given it takes from the environment. A request is sent to the
`Wire`, which gives back the next reply and keeps the request. Reading a reply gives an object or
one of the causes in `CallError`; of these, a `ServiceError` is one that callers expect.
-/

namespace DeliveryCycle.Remote

inductive ServiceError where
  | keyMissing
  | workflowMissing
  | status (code : Int) (text : String)
  | unreachable (text : String)
deriving DecidableEq, Repr

def ServiceError.message : ServiceError → String
  | .keyMissing => "RENDER_API_KEY not configured"
  | .workflowMissing => "RENDER_WORKFLOW_SLUG not configured"
  | .status code text => s!"API error {code}: {text}"
  | .unreachable text => s!"Request to Render failed: {text}"

inductive CallError where
  | service (error : ServiceError)
  | badAddress (error : Address.ReadError)
  /-- The connection refuses the address. -/
  | refusedAddress (message : String)
  /-- The address has a path that cannot be written in UTF-8. -/
  | unpaired (error : Text.UnpairedSurrogate)
  /-- The key cannot be sent. -/
  | badKey (error : Text.WideStretch)
  | badHost (error : Address.HostLineError)
  /-- The service answered, but the address does not say where the answer comes from. -/
  | badOrigin (error : OriginError)
  /-- The body of the request cannot be written. -/
  | badBody (error : Json.EncodingError)
  /-- The answer of the service cannot be written. -/
  | unwritable (error : Json.EncodingError)
  /-- The service answered with a text that is not read as JSON. -/
  | unreadable (error : Json.ReadError)
  /-- The service answered with a value that is not an object. -/
  | notAnObject
deriving DecidableEq, Repr

def serviceAddress : String := "https://api.render.com/v1"

/-- A client that can send requests. -/
structure Client where
  key : String
  workflow : String
  base : String
deriving DecidableEq, Repr

/-- A text that is given, or else one that the environment gives. -/
def orGiven (text : Option String) (environment : Environment) (name : String) : Option String :=
  (text.filter (· ≠ "")).or (environment.given? name)

/-- A client from what is given and from the environment. -/
def Client.create (environment : Environment) (key workflow base : Option String) :
    Except ServiceError Client :=
  match orGiven key environment "RENDER_API_KEY",
      orGiven workflow environment "RENDER_WORKFLOW_SLUG" with
  | none, _ => .error .keyMissing
  | some _, none => .error .workflowMissing
  | some key, some workflow => .ok ⟨key, workflow, base.getD serviceAddress⟩

/-- The client that the environment alone describes, if it describes one. -/
def Client.ofEnvironment (environment : Environment) : Option Client :=
  match Client.create environment none none none with
  | .ok client => some client
  | .error _ => none

/-- A request as the service sees it. -/
structure SentRequest where
  method : String
  url : String
  authorization : String
  contentType : String
  body : Option Json
deriving Repr

inductive Reply where
  | answer (status : Int) (text : String)
  | unreachable (message : String)
  | badAddress (message : String)
  /-- There is an answer, but it cannot be written. -/
  | unwritable (error : Json.EncodingError)
deriving DecidableEq, Repr

/-- The replies still to come and the requests sent so far. -/
structure Wire where
  replies : List Reply
  sent : List SentRequest
deriving Repr

namespace Wire

def empty : Wire := ⟨[], []⟩

/-- The reply when none is to come. -/
def silence : Reply := .unreachable "nothing scripted"

/-- Sends a request and takes the next reply. -/
def exchange (wire : Wire) (request : SentRequest) : Reply × Wire :=
  (wire.replies.headD silence, ⟨wire.replies.drop 1, wire.sent ++ [request]⟩)

end Wire

/-- The object that a reply holds. -/
def Reply.read : Reply → Except CallError (List (String × Json))
  | .unreachable message => .error (.service (.unreachable message))
  | .badAddress message => .error (.refusedAddress message)
  | .unwritable error => .error (.unwritable error)
  | .answer status text =>
      if 200 ≤ status && status < 300 then
        match Json.receive text with
        | .ok (.object fields) => .ok fields
        | .ok _ => .error .notAnObject
        | .error error => .error (.unreadable error)
      else .error (.service (.status status text))

/-- The reply to a request as the client takes it. An answer counts only if the address of the
request says where it comes from. -/
def Reply.taken (reply : Reply) (request : SentRequest) : Except CallError Reply :=
  match reply with
  | .answer _ _ => do
      (checkOrigin request.url.toList).mapError .badOrigin
      return reply
  | _ => .ok reply

namespace Client

/-- The address of a path, which is given in codes, at the service of a client. -/
def address (client : Client) (path : List Nat) : Except CallError Address := do
  let base ← (Address.baseOfText client.base.toList).mapError .badAddress
  let request ← (Address.ofText (path.map Text.charOfCode)).mapError .badAddress
  if let some code := path.find? Text.isSurrogate then throw (.unpaired ⟨code, 0, 1⟩)
  (base.join request).mapError .badAddress

/-- How a client says who it is: by what its base address says, or else by its key. -/
def authorization (client : Client) (address : Address) : String :=
  match address.credentials? with
  | some credentials => "Basic " ++ credentials
  | none => "Bearer " ++ client.key

/-- A request of a client, if its parts can be sent. -/
def request (client : Client) (method : String) (path : List Nat) (body : Option Json) :
    Except CallError SentRequest := do
  let address ← client.address path
  (Text.checkAscii ("Bearer " ++ client.key).toList).mapError .badKey
  if let some value := body then
    if let .error error := Json.encode value then throw (.badBody error)
  address.checkHostLine.mapError .badHost
  return ⟨method, String.ofList address.text, client.authorization address, "application/json",
    body⟩

/-- Sends a request; one that cannot be sent does not reach the wire. -/
def send (client : Client) (wire : Wire) (method : String) (path : List Nat)
    (body : Option Json) : Except CallError Reply × Wire :=
  match client.request method path body with
  | .error error => (.error error, wire)
  | .ok request =>
      let (reply, wire) := wire.exchange request
      (reply.taken request, wire)

/-- The full name of a task of the client's workflow. -/
def taskIdentifier (client : Client) (task : String) : String := client.workflow ++ "/" ++ task

def sendStart (client : Client) (wire : Wire) (task : String) (arguments : Json) :
    Except CallError Reply × Wire :=
  let input := if arguments.isGiven then arguments else .array []
  let body : Json := .object [("task", .string (client.taskIdentifier task)), ("input", input)]
  client.send wire "POST" ("/tasks".toList.map (·.toNat)) (some body)

def sendStatus (client : Client) (wire : Wire) (runId : Json) :
    Except CallError Reply × Wire :=
  client.send wire "GET" ("/tasks/".toList.map (·.toNat) ++ runId.displayCodes) none

end Client

/-- The value of a field of an answer; null if the field is not there. -/
def answerField (fields : List (String × Json)) (name : String) : Json :=
  (getField? fields name).getD .null

structure StartedRun where
  runId : Json
  status : Json
  task : String
deriving Repr

structure RunReport where
  runId : Json
  status : Json
  createdAt : Json
  startedAt : Json
  finishedAt : Json
deriving Repr

def StartedRun.ofAnswer (task : String) (fields : List (String × Json)) : StartedRun :=
  ⟨answerField fields "id", answerField fields "status", task⟩

def RunReport.ofAnswer (fields : List (String × Json)) : RunReport where
  runId := answerField fields "id"
  status := answerField fields "status"
  createdAt := answerField fields "createdAt"
  startedAt := answerField fields "startedAt"
  finishedAt := answerField fields "finishedAt"

def StartedRun.toJson (run : StartedRun) : Json :=
  .object [("run_id", run.runId), ("status", run.status), ("task_identifier", .string run.task)]

def RunReport.toJson (report : RunReport) : Json :=
  .object [("run_id", report.runId), ("status", report.status),
    ("created_at", report.createdAt), ("started_at", report.startedAt),
    ("finished_at", report.finishedAt)]

namespace Client

def startTask (client : Client) (wire : Wire) (task : String) (arguments : Json) :
    Except CallError StartedRun × Wire :=
  let (reply, wire) := client.sendStart wire task arguments
  (do return .ofAnswer (client.taskIdentifier task) (← (← reply).read), wire)

def runReport (client : Client) (wire : Wire) (runId : Json) :
    Except CallError RunReport × Wire :=
  let (reply, wire) := client.sendStatus wire runId
  (do return .ofAnswer (← (← reply).read), wire)

end Client

end DeliveryCycle.Remote
