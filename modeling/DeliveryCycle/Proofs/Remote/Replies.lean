import DeliveryCycle.Proofs.Json.WrittenText
import DeliveryCycle.Remote.Client
import Mathlib

/-!
# What the client makes of a reply

A caller of the client is ready for two ends: a result, and a failure of the service or of the way
to it that the client gives a name. `Reply.Holds` and `Reply.Fails` say which replies mean what. A
reply that does neither ends the call with an error for which no caller is ready: an answer of
success whose text is not an object.

A reply comes only if the request can be sent, and an answer counts only if it is known where it
comes from. A request `Reaches` the service if both is so; the request that starts a run does if the
key is written in ASCII.
-/

namespace DeliveryCycle.Remote

/-- A reply is an answer of success that holds an object. -/
inductive Reply.Holds : Reply → List (String × Json) → Prop
  | object {status : Int} {text : String} {fields : List (String × Json)}
      (success : 200 ≤ status ∧ status < 300)
      (read : Json.receive text = .ok (.object fields)) : Holds (.answer status text) fields

/-- A reply is a failure with a name: no answer, or an answer of another status than success. -/
inductive Reply.Fails : Reply → ServiceError → Prop
  | unreached (message : String) : Fails (.unreachable message) (.unreachable message)
  | refused {status : Int} (text : String) (problem : ¬(200 ≤ status ∧ status < 300)) :
      Fails (.answer status text) (.status status text)

/-- A reply with which a caller of the client can deal. -/
def Reply.IsUnderstood (reply : Reply) : Prop :=
  (∃ fields, reply.Holds fields) ∨ ∃ error, reply.Fails error

/-- A call ends in a result or in a failure with a name. -/
def EndsWell {Value : Type} (result : Except CallError Value) : Prop :=
  (∃ value, result = .ok value) ∨ ∃ error, result = .error (.service error)

section Read

variable {reply : Reply} {fields : List (String × Json)} {error : ServiceError}

theorem Reply.read_eq_ok_iff : reply.read = .ok fields ↔ reply.Holds fields := by
  constructor
  · intro read
    cases reply with
    | answer status text =>
        simp only [Reply.read] at read
        split at read
        · rename_i success
          have inside : 200 ≤ status ∧ status < 300 := by simpa using success
          split at read
          · rename_i object
            cases read
            exact .object inside object
          · contradiction
          · contradiction
        · contradiction
    | unreachable | badAddress | unwritable => contradiction
  · rintro ⟨success, object⟩
    simp [Reply.read, success, object]

theorem Reply.read_eq_service_iff :
    reply.read = .error (.service error) ↔ reply.Fails error := by
  constructor
  · intro read
    cases reply with
    | answer status text =>
        simp only [Reply.read] at read
        split at read
        · split at read <;> cases read
        · rename_i problem
          cases read
          exact .refused text (by simpa using problem)
    | unreachable message =>
        cases read
        exact .unreached message
    | badAddress | unwritable => cases read
  · rintro (_ | ⟨_, problem⟩)
    · rfl
    · simp [Reply.read, problem]

theorem endsWell_map_read_iff {Value : Type} (make : List (String × Json) → Value) :
    EndsWell (reply.read.map make) ↔ reply.IsUnderstood := by
  unfold EndsWell Reply.IsUnderstood
  simp only [← Reply.read_eq_ok_iff, ← Reply.read_eq_service_iff]
  cases reply.read with
  | ok fields => simp [Except.map]
  | error error => simp [Except.map]

end Read

/-- The reply to the next request. -/
def Wire.nextReply (wire : Wire) : Reply := wire.replies.headD silence

section Written

open Json

theorem surrogateMark_notMem_codeEscape (code : Nat) : surrogateMark ∉ codeEscape code := by
  intro mem
  have printable := isAsciiLine_codeEscape code surrogateMark mem
  exact absurd printable (by decide)

/-- A string is written without the mark of a surrogate, as control characters are escaped. -/
theorem surrogateMark_notMem_writeText (asciiOnly : Bool) (text : String) :
    surrogateMark ∉ writeText asciiOnly text := by
  have noCharacter : ∀ character, surrogateMark ∉ writeChar asciiOnly character := by
    intro character
    unfold writeChar
    iterate 7 split; · decide
    split
    · exact surrogateMark_notMem_codeEscape _
    · rename_i printable
      split
      · exact surrogateMark_notMem_codeEscape _
      · rw [List.mem_singleton]
        rintro rfl
        exact printable (by decide)
  simp only [writeText, List.mem_cons, List.mem_append, List.mem_flatMap, List.not_mem_nil,
    or_false, not_or, not_exists, not_and]
  exact ⟨by decide, fun character _ => noCharacter character, by decide⟩

theorem markedSurrogate?_eq_none {text : List Char} (absent : surrogateMark ∉ text) :
    markedSurrogate? text = none := by
  have nothing : text.dropWhile (· ≠ surrogateMark) = [] := by
    rw [List.dropWhile_eq_nil_iff]
    intro character mem
    simpa using fun same : character = surrogateMark => absent (same ▸ mem)
  simp only [markedSurrogate?, nothing, List.isEmpty_nil, if_true]

end Written

namespace Client

variable {client : Client} {method : String} {path : List Nat} {body : Option Json}

/-- The path under which runs are started. -/
def startPath : List Nat := "/tasks".toList.map (·.toNat)

/-- The path under which the service is asked about a run. -/
def reportPath (runId : Json) : List Nat := "/tasks/".toList.map (·.toNat) ++ runId.displayCodes

/-- What the service is sent to start a task; without arguments, the empty list. -/
def startBody (client : Client) (task : String) (arguments : Json) : Json :=
  .object [("task", .string (client.taskIdentifier task)),
    ("input", if arguments.isGiven then arguments else .array [])]

/-- A request can be sent, and it is known where an answer to it comes from. -/
def Reaches (client : Client) (method : String) (path : List Nat) (body : Option Json) : Prop :=
  ∃ request, client.request method path body = .ok request ∧
    checkOrigin request.url.toList = .ok ()

/-- The key consists of characters that can be sent. -/
def HasPlainKey (client : Client) : Prop :=
  ∀ character ∈ client.key.toList, Text.isWide character = false

theorem send_of_request {request : SentRequest}
    (requested : client.request method path body = .ok request)
    (known : checkOrigin request.url.toList = .ok ()) (wire : Wire) :
    client.send wire method path body = (.ok wire.nextReply, (wire.exchange request).2) := by
  have counts : wire.nextReply.taken request = .ok wire.nextReply := by
    cases wire.nextReply <;> simp [Reply.taken, known, Except.mapError, bind, Except.bind, pure,
      Except.pure]
  simp only [send, requested, ← counts]
  rfl

/-- A request that reaches the service gets the next reply. -/
theorem send_of_reaches (reaches : client.Reaches method path body) (wire : Wire) :
    ∃ after, client.send wire method path body = (.ok wire.nextReply, after) := by
  rcases reaches with ⟨request, requested, known⟩
  exact ⟨_, send_of_request requested known wire⟩

/-- A request that got an answer has reached the service. -/
theorem reaches_of_send {wire after : Wire} {status : Int} {text : String}
    (sent : client.send wire method path body = (.ok (.answer status text), after)) :
    client.Reaches method path body := by
  unfold send at sent
  cases requested : client.request method path body with
  | error error => simp [requested] at sent
  | ok request =>
      simp only [requested, Prod.mk.injEq] at sent
      refine ⟨request, requested, ?_⟩
      cases known : checkOrigin request.url.toList with
      | ok nothing => rfl
      | error error =>
          have taken := sent.1
          cases reply : (wire.exchange request).1 <;>
            simp [reply, Reply.taken, known, Except.mapError, bind, Except.bind] at taken

/-- A request brings back an object exactly if it reaches the service and the next reply holds the
object. -/
theorem read_send_eq_ok_iff {wire : Wire} {fields : List (String × Json)} :
    (client.send wire method path body).1.bind Reply.read = .ok fields ↔
      client.Reaches method path body ∧ wire.nextReply.Holds fields := by
  rw [← Reply.read_eq_ok_iff]
  constructor
  · intro brought
    rcases sent : client.send wire method path body with ⟨reply | ⟨status, text⟩ | _ | _ | _, after⟩
    case ok.answer =>
      have reaches := reaches_of_send sent
      rcases send_of_reaches reaches wire with ⟨after, received⟩
      rw [received] at brought
      exact ⟨reaches, brought⟩
    all_goals
      rw [sent] at brought
      contradiction
  · rintro ⟨reaches, holds⟩
    rcases send_of_reaches reaches wire with ⟨after, sent⟩
    rw [sent]
    exact holds

theorem startTask_of_reaches {task : String} {arguments : Json}
    (reaches : client.Reaches "POST" startPath (some (client.startBody task arguments)))
    (wire : Wire) : (client.startTask wire task arguments).1 =
      wire.nextReply.read.map
        (StartedRun.ofAnswer (client.taskIdentifier task)) := by
  rcases send_of_reaches reaches wire with ⟨after, sent⟩
  have started : client.sendStart wire task arguments =
      (.ok wire.nextReply, after) := sent
  cases read : wire.nextReply.read <;>
    simp [startTask, started, read, bind, Except.bind, Except.map, pure, Except.pure]

theorem runReport_of_reaches {runId : Json}
    (reaches : client.Reaches "GET" (reportPath runId) none) (wire : Wire) :
    (client.runReport wire runId).1 =
      wire.nextReply.read.map RunReport.ofAnswer := by
  rcases send_of_reaches reaches wire with ⟨after, sent⟩
  have asked : client.sendStatus wire runId =
      (.ok wire.nextReply, after) := sent
  cases read : wire.nextReply.read <;>
    simp [runReport, asked, read, bind, Except.bind, Except.map, pure, Except.pure]

section Start

/-- A request to start a task for a project can be written. -/
theorem encode_startBody (client : Client) (task project : String) :
    ∃ text, Json.encode (client.startBody task (.array [.string project])) = .ok text := by
  have finite : Json.isFinite (client.startBody task (.array [.string project])) = true := rfl
  have absent : Json.surrogateMark ∉
      Json.write .marked (client.startBody task (.array [.string project])) := by
    simp only [startBody, Json.isGiven, Json.write, Json.writeField, Json.writeFields,
      Json.writeItems, List.isEmpty_cons, Bool.not_false, if_true, List.mem_cons, List.mem_append,
      surrogateMark_notMem_writeText, List.not_mem_nil, or_false, false_or]
    decide
  simp only [Json.encode, finite, markedSurrogate?_eq_none absent]
  exact ⟨_, rfl⟩

/-- The address under which runs are started. -/
def startAddress : Address where
  scheme := "https".toList
  userinfo := []
  host := "api.render.com".toList
  port := none
  path := "/v1/tasks".toList
  query := none
  fragment := none

theorem address_startPath (ofService : client.base = serviceAddress) :
    client.address startPath = .ok startAddress := by
  have found : (⟨"", "", serviceAddress⟩ : Client).address startPath = .ok startAddress := by cbv
  rw [← found]
  simp only [address, ofService]

theorem checkOrigin_startAddress :
    checkOrigin (String.ofList startAddress.text).toList = .ok () := by
  cbv

theorem checkAscii_key_iff (client : Client) :
    Text.checkAscii ("Bearer " ++ client.key).toList = .ok () ↔ client.HasPlainKey := by
  have word : ∀ character ∈ "Bearer ".toList, Text.isWide character = false :=
    Text.checkAscii_eq_ok_iff.mp (by cbv)
  rw [String.toList_append, Text.checkAscii_eq_ok_iff]
  constructor
  · intro plain character mem
    exact plain character (List.mem_append_right _ mem)
  · intro plain character mem
    exact (List.mem_append.mp mem).elim (word character) (plain character)

/-- The request to start a task for a project, as it is sent. -/
def startRequest (client : Client) (task project : String) : SentRequest where
  method := "POST"
  url := String.ofList startAddress.text
  authorization := client.authorization startAddress
  contentType := "application/json"
  body := some (client.startBody task (.array [.string project]))

theorem request_startPath (ofService : client.base = serviceAddress) (plain : client.HasPlainKey)
    (task project : String) :
    client.request "POST" startPath (some (client.startBody task (.array [.string project]))) =
      .ok (client.startRequest task project) := by
  have keyed := client.checkAscii_key_iff.mpr plain
  rcases encode_startBody client task project with ⟨text, encoded⟩
  simp only [request, address_startPath ofService, keyed, encoded]
  rfl

/-- With a key that can be sent a request for a run gets the next reply. -/
theorem sendStart_of_plain (ofService : client.base = serviceAddress) (plain : client.HasPlainKey)
    (wire : Wire) (task project : String) :
    client.sendStart wire task (.array [.string project]) =
      (.ok wire.nextReply, (wire.exchange (client.startRequest task project)).2) :=
  send_of_request (request_startPath ofService plain task project) checkOrigin_startAddress wire

/-- With another key no request for a run is written. -/
theorem request_startPath_of_wide (ofService : client.base = serviceAddress)
    (wide : ¬client.HasPlainKey) (task : String) (arguments : Json) :
    ∃ stretch, client.request "POST" startPath (some (client.startBody task arguments)) =
      .error (.badKey stretch) := by
  cases keyed : Text.checkAscii ("Bearer " ++ client.key).toList with
  | ok nothing => exact absurd (client.checkAscii_key_iff.mp keyed) wide
  | error stretch =>
      refine ⟨stretch, ?_⟩
      simp only [request, address_startPath ofService, keyed]
      rfl

/-- A request for a run of a project reaches the service exactly if the key can be sent. -/
theorem reaches_start_iff (ofService : client.base = serviceAddress) (task project : String) :
    client.Reaches "POST" startPath (some (client.startBody task (.array [.string project]))) ↔
      client.HasPlainKey := by
  constructor
  · rintro ⟨request, sent, _⟩
    by_contra wide
    rcases request_startPath_of_wide ofService wide task (.array [.string project]) with
      ⟨stretch, refused⟩
    rw [refused] at sent
    contradiction
  · intro plain
    exact ⟨_, request_startPath ofService plain task project, checkOrigin_startAddress⟩

theorem sendStart_of_wide (ofService : client.base = serviceAddress) (wide : ¬client.HasPlainKey)
    (wire : Wire) (task : String) (arguments : Json) :
    ∃ stretch, client.sendStart wire task arguments = (.error (.badKey stretch), wire) := by
  rcases request_startPath_of_wide ofService wide task arguments with ⟨stretch, refused⟩
  refine ⟨stretch, ?_⟩
  change client.send wire "POST" startPath (some (client.startBody task arguments)) = _
  simp only [send, refused]

end Start

end Client

end DeliveryCycle.Remote
