import DeliveryCycle.Json.Writer
import DeliveryCycle.Log.Entry
import DeliveryCycle.Remote.Client
import DeliveryCycle.Store.Edit
import DeliveryCycle.Text.Capital
import DeliveryCycle.Validation.Issue

/-!
# Requests and responses

A request has a method, a path, named parameters and a body. Its target is an address, as a rule one
that holds only a path and a query: the path of the request is the decoded path of the target under
the address of the service, and the parameters are those of the query unless others are given. A
handler answers with a status and mostly with a body of JSON, or ends in an error that it does not
handle.
-/

namespace DeliveryCycle.Api

/-- A request. An empty body is no body. -/
structure Request where
  method : String
  path : List Char
  parameters : List (String × String)
  body : String
deriving DecidableEq, Repr

def queryText (text : List Char) : String :=
  String.ofList (Text.decodePercent (text.map fun character =>
    if character = '+' then ' ' else character))

/-- The parameters of a query. One without an equals sign has the empty value. -/
def queryParameters (query : List Char) : List (String × String) :=
  ((Text.segments '&' query).filter (!·.isEmpty)).map fun parameter =>
    let (name, value) := Text.splitAtFirst '=' parameter
    (queryText name, queryText (value.getD []))

inductive TargetError where
  | badAddress (error : Address.ReadError)
  | badHost (error : Address.HostLineError)
deriving DecidableEq, Repr

def ownAddress : Address := ⟨"http".toList, [], "service".toList, none, ['/'], none, none⟩

/-- The request with a target. Its method is a word in capital letters. Parameters that are given
replace those of the target. -/
def Request.ofTarget (method : String) (target : List Char)
    (parameters : Option (List (String × String))) (body : String) :
    Except TargetError Request := do
  let address ← (do ownAddress.join (← Address.ofText target)).mapError .badAddress
  address.checkHostLine.mapError .badHost
  return {
    method := Text.inCapitals method
    path := Text.decodePercent (if address.path.isEmpty then ['/'] else address.path)
    parameters := parameters.getD (queryParameters (address.query.getD []))
    body := body }

/-- A response; one without a body may be a hint to look elsewhere. -/
structure Response where
  status : Nat
  body : Option Json
deriving Repr

/-- An error that a handler does not handle. -/
inductive HandlerError where
  | store (error : StoreError)
  | call (error : Remote.CallError)
  /-- The handler's own answer is refused. -/
  | answerRefused (issues : List Issue)
  /-- A text of the handler's own answer cannot be written. -/
  | answerUnwritable (error : Text.UnpairedSurrogate)
  /-- A response that repeats the input cannot be written. -/
  | unsendable (error : Json.EncodingError)
deriving DecidableEq, Repr

def unwritableMessage (error : Text.UnpairedSurrogate) : String :=
  s!"Error serializing to JSON: UnicodeEncodeError: {error.message}"

def Response.success (body : Json) : Response := ⟨200, some body⟩

/-- A response that tells what is wrong. -/
def Response.problem (status : Nat) (detail : String) : Response :=
  ⟨status, some (.object [("detail", .string detail)])⟩

def Response.refusal (issues : List Issue) : Response :=
  ⟨422, some (.object [("detail", .array (issues.map Issue.toJson))])⟩

/-- The response to a body with a value that is refused; the answer repeats the value, so it is sent
only if the value can be written. -/
def Response.refusalOf (issue : Issue) (input : Json) : Except HandlerError Response :=
  match Json.encode (.object [("detail", .array [issue.withInput input])]) with
  | .ok _ => .ok (refusal [issue])
  | .error error => .error (.unsendable error)

/-- The value of a parameter; of several the last one counts. -/
def Request.parameter? (request : Request) (name : String) : Option String :=
  getField? request.parameters.reverse name

end DeliveryCycle.Api
