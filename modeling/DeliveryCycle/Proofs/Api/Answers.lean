import DeliveryCycle.Proofs.Api.RequestSequence
import DeliveryCycle.Proofs.Remote.Replies

/-!
# How starts and polls are answered

A start is answered with success if the service replied with an object, and as a failure of the
service if the reply is a failure with a name. A poll is answered with success in both cases. In
addition the identifier and the status that an answer repeats have to be texts or null. All other
replies end a request without an answer: `failures_surface_iff`.
-/

namespace DeliveryCycle.Api

open Remote (Client EndsWell Reply Wire)

/-- A value that an answer can repeat where it has a text or null: its codes are all characters. -/
inductive IsOptionalText : Json → Prop
  | null : IsOptionalText .null
  | string (text : String) : IsOptionalText (.string text)
  | codes {codes : List Nat} (characters : ∀ code ∈ codes, Text.isSurrogate code = false) :
      IsOptionalText (.unpaired codes)

/-- A request is answered with a status. -/
def Handled.Answers (handled : Handled) (status : Nat) : Prop :=
  ∃ response, handled.result = .ok response ∧ response.status = status

section Repeated

variable {value : Json} {run : TrackedRun} {status : Json}

theorem firstSurrogates?_eq_none_iff {codes : List Nat} :
    Text.firstSurrogates? codes = none ↔ ∀ code ∈ codes, Text.isSurrogate code = false := by
  have nothing : codes.dropWhile (!Text.isSurrogate ·) = [] ↔
      ∀ code ∈ codes, Text.isSurrogate code = false := by
    simp [List.dropWhile_eq_nil_iff]
  rw [← nothing]
  unfold Text.firstSurrogates?
  split <;> simp_all

/-- An answer repeats a value if the value is of the right kind and can be written. -/
theorem isOptionalText_iff (name : String) : IsOptionalText value ↔
    checkOptionalText name value = [] ∧ unwritable? value = none := by
  constructor
  · rintro (_ | text | characters)
    · exact ⟨rfl, rfl⟩
    · exact ⟨rfl, rfl⟩
    · exact ⟨rfl, firstSurrogates?_eq_none_iff.mpr characters⟩
  · rintro ⟨kind, written⟩
    cases value with
    | null => exact .null
    | string text => exact .string text
    | unpaired codes => exact .codes (firstSurrogates?_eq_none_iff.mp written)
    | bool | int | real | unpairedName | array | object => simp [checkOptionalText] at kind

/-- An answer is sent, with success, if its parts have no issue and all its texts can be written. -/
theorem answers_checkedAnswer_iff {issues : List Issue} {fields : List (String × Json)}
    {log : List Log.Entry} {code : Nat} :
    Handled.Answers ⟨checkedAnswer issues fields, log⟩ code ↔
      (issues = [] ∧ ∀ field ∈ fields, unwritable? field.2 = none) ∧ code = 200 := by
  unfold Handled.Answers checkedAnswer
  dsimp only
  cases issues with
  | cons issue rest => simp
  | nil =>
      rw [← List.findSome?_eq_none_iff]
      cases fields.findSome? fun field => unwritable? field.2 <;> simp [Response.success, eq_comm]

@[simp]
theorem unwritable?_null : unwritable? .null = none := rfl

@[simp]
theorem unwritable?_bool (value : Bool) : unwritable? (.bool value) = none := rfl

@[simp]
theorem unwritable?_string (text : String) : unwritable? (.string text) = none := rfl

theorem answers_startSucceeded_iff {code : Nat} :
    (startSucceeded run).Answers code ↔ IsOptionalText run.runId ∧ code = 200 := by
  rw [startSucceeded, answers_checkedAnswer_iff, isOptionalText_iff "run_id"]
  simp

theorem answers_statusFailed_iff {error : Remote.ServiceError} {code : Nat} :
    Handled.Answers ⟨statusFailed run error, []⟩ code ↔
      IsOptionalText run.runId ∧ code = 200 := by
  rw [statusFailed, answers_checkedAnswer_iff, isOptionalText_iff "run_id"]
  simp [statusFields, Json.ofText?]

theorem answers_statusTold_iff {code : Nat} :
    Handled.Answers ⟨statusTold run status, []⟩ code ↔
      (IsOptionalText run.runId ∧ IsOptionalText status) ∧ code = 200 := by
  -- What the answer says about an error is null or a string.
  have noted (plain : Prop) [Decidable plain] (text : String) :
      unwritable? (if plain then Json.null else .string text) = none := by
    split <;> rfl
  rw [statusTold, answers_checkedAnswer_iff, isOptionalText_iff "run_id",
    isOptionalText_iff "render_status"]
  simp only [statusFields, Json.ofText?, noted, Option.map_some, Option.getD_some,
    List.append_eq_nil_iff, List.forall_mem_cons, unwritable?_bool, unwritable?_string,
    List.not_mem_nil, false_implies, implies_true, true_and, and_true]
  tauto

end Repeated

section Exits

variable {environment : Environment} {client : Client} {wire : Wire} {tracking : Tracking}
variable {project : String} {run : TrackedRun} {reply : Reply}

theorem PendingStart.answers_iff {code : Nat} :
    (PendingStart.finish ⟨project, .ok reply⟩ tracking).1.Answers code ↔
      (∃ fields, reply.Holds fields ∧ IsOptionalText (Remote.answerField fields "id")) ∧
          code = 200 ∨
        (∃ error, reply.Fails error) ∧ code = 502 := by
  simp only [← Reply.read_eq_ok_iff, ← Reply.read_eq_service_iff, PendingStart.finish,
    Except.bind]
  cases reply.read with
  | ok fields => simp [answers_startSucceeded_iff]
  | error error =>
      cases error <;> simp [Handled.Answers, startFailed, Response.problem, eq_comm]

theorem PendingStatus.answers_iff {code : Nat} :
    (PendingStatus.finish ⟨run, .ok reply⟩ tracking).1.Answers code ↔
      (IsOptionalText run.runId ∧ ((∃ error, reply.Fails error) ∨
        ∃ fields, reply.Holds fields ∧
          IsOptionalText (Remote.answerField fields "status"))) ∧ code = 200 := by
  simp only [← Reply.read_eq_ok_iff, ← Reply.read_eq_service_iff, PendingStatus.finish,
    Except.bind]
  cases reply.read with
  | ok fields => simp [answers_statusTold_iff]
  | error error =>
      cases error with
      | service failure => simpa using answers_statusFailed_iff
      | _ => simp [Handled.Answers]

/-- A start with a name that is let through sends a request. -/
theorem startRun_of_sent {body : String} {after : Wire} {reply : Except Remote.CallError Reply}
    (described : Client.ofEnvironment environment = some client)
    (accepted : readProject body = .ok project)
    (sent : client.sendStart wire Job.calculationName (.array [.string project]) =
      (reply, after)) :
    startRun environment ⟨tracking, wire⟩ body =
      ((PendingStart.finish ⟨project, reply⟩ tracking).1,
        ⟨(PendingStart.finish ⟨project, reply⟩ tracking).2, after⟩) := by
  simp only [startRun, beginStart, accepted, described, sent]

theorem startRun_of_plain {body : String}
    (described : Client.ofEnvironment environment = some client) (plain : client.HasPlainKey)
    (accepted : readProject body = .ok project) :
    startRun environment ⟨tracking, wire⟩ body =
      ((PendingStart.finish ⟨project, .ok wire.nextReply⟩ tracking).1,
        ⟨(PendingStart.finish ⟨project, .ok wire.nextReply⟩ tracking).2,
          (wire.exchange (client.startRequest Job.calculationName project)).2⟩) :=
  startRun_of_sent described accepted
    (Client.sendStart_of_plain (base_of_ofEnvironment described) plain wire _ project)

/-- A poll while a run is tracked asks about it. -/
theorem showStatus_of_sent {after : Wire} {reply : Except Remote.CallError Reply}
    (described : Client.ofEnvironment environment = some client)
    (sent : client.sendStatus wire run.runId = (reply, after)) :
    showStatus environment ⟨some run, wire⟩ =
      ((PendingStatus.finish ⟨run, reply⟩ (some run)).1,
        ⟨(PendingStatus.finish ⟨run, reply⟩ (some run)).2, after⟩) := by
  simp only [showStatus, beginStatus, described, sent]

theorem startRun_answers_iff {body : String} {code : Nat}
    (described : Client.ofEnvironment environment = some client)
    (accepted : readProject body = .ok project) :
    (startRun environment ⟨tracking, wire⟩ body).1.Answers code ↔
      client.HasPlainKey ∧
        ((∃ fields, wire.nextReply.Holds fields ∧
              IsOptionalText (Remote.answerField fields "id")) ∧ code = 200 ∨
          (∃ error, wire.nextReply.Fails error) ∧ code = 502) := by
  by_cases plain : client.HasPlainKey
  · rw [startRun_of_plain described plain accepted, PendingStart.answers_iff]
    simp only [plain, true_and]
  · rcases Client.sendStart_of_wide (base_of_ofEnvironment described) plain wire
      Job.calculationName (.array [.string project]) with ⟨stretch, sent⟩
    rw [startRun_of_sent described accepted sent]
    simp [plain, Handled.Answers, PendingStart.finish, Except.bind]

theorem showStatus_answers_iff {code : Nat}
    (described : Client.ofEnvironment environment = some client)
    (reaches : client.Reaches "GET" (Client.reportPath run.runId) none) :
    (showStatus environment ⟨some run, wire⟩).1.Answers code ↔
      (IsOptionalText run.runId ∧ ((∃ error, wire.nextReply.Fails error) ∨
        ∃ fields, wire.nextReply.Holds fields ∧
          IsOptionalText (Remote.answerField fields "status"))) ∧ code = 200 := by
  rcases Client.send_of_reaches reaches wire with ⟨after, sent⟩
  rw [showStatus_of_sent described sent, PendingStatus.answers_iff]

end Exits

/-- Whatever the service replies to requests that reach it, calls of the client end well, a start is
answered with success or as a failure of the service, and a poll is answered with success. -/
def FailuresSurface : Prop :=
  ∀ (environment : Environment) (client : Client) (wire : Wire),
    Client.ofEnvironment environment = some client → client.HasPlainKey →
      (∀ task arguments,
        client.Reaches "POST" Client.startPath (some (client.startBody task arguments)) →
          EndsWell (client.startTask wire task arguments).1) ∧
      (∀ runId, client.Reaches "GET" (Client.reportPath runId) none →
        EndsWell (client.runReport wire runId).1) ∧
      (∀ tracking body project, readProject body = .ok project →
        (startRun environment ⟨tracking, wire⟩ body).1.Answers 200 ∨
          (startRun environment ⟨tracking, wire⟩ body).1.Answers 502) ∧
      ∀ run, client.Reaches "GET" (Client.reportPath run.runId) none →
        (showStatus environment ⟨some run, wire⟩).1.Answers 200

/-- Which replies surface. A call of the client ends in a result or in a failure of the service
exactly if its reply is an object or such a failure. A start is answered with success exactly if the
reply is an object with an identifier that an answer can repeat, and as a failure of the service
exactly if the reply is one; with a key that cannot be sent it is not answered. A poll is answered
with success or not at all. It is answered if nothing is tracked, and else exactly if the answer can
repeat the identifier of the run, and the reply is a failure of the service or an object with a
status that the answer can repeat. -/
theorem failures_surface_iff (wire : Wire) :
    (∀ (client : Client) task arguments,
      client.Reaches "POST" Client.startPath (some (client.startBody task arguments)) →
        (EndsWell (client.startTask wire task arguments).1 ↔ wire.nextReply.IsUnderstood)) ∧
    (∀ (client : Client) runId, client.Reaches "GET" (Client.reportPath runId) none →
      (EndsWell (client.runReport wire runId).1 ↔ wire.nextReply.IsUnderstood)) ∧
    ∀ environment client, Client.ofEnvironment environment = some client →
      (∀ tracking body project, readProject body = .ok project →
        ((startRun environment ⟨tracking, wire⟩ body).1.Answers 200 ↔
          client.HasPlainKey ∧ ∃ fields, wire.nextReply.Holds fields ∧
            IsOptionalText (Remote.answerField fields "id")) ∧
        ((startRun environment ⟨tracking, wire⟩ body).1.Answers 502 ↔
          client.HasPlainKey ∧ ∃ error, wire.nextReply.Fails error)) ∧
      (showStatus environment ⟨none, wire⟩).1.Answers 200 ∧
      ∀ run, client.Reaches "GET" (Client.reportPath run.runId) none →
        ((showStatus environment ⟨some run, wire⟩).1.Answers 200 ↔
          IsOptionalText run.runId ∧ ((∃ error, wire.nextReply.Fails error) ∨
            ∃ fields, wire.nextReply.Holds fields ∧
              IsOptionalText (Remote.answerField fields "status"))) := by
  refine ⟨?_, ?_, ?_⟩
  · intro client task arguments reaches
    rw [Client.startTask_of_reaches reaches]
    exact Remote.endsWell_map_read_iff _
  · intro client runId reaches
    rw [Client.runReport_of_reaches reaches]
    exact Remote.endsWell_map_read_iff _
  · intro environment client described
    refine ⟨?_, ?_, ?_⟩
    · intro tracking body project accepted
      simp [startRun_answers_iff described accepted]
    · exact ⟨_, rfl, rfl⟩
    · intro run reaches
      simp [showStatus_answers_iff described reaches]

section Malformed

/-- A question about the first run reaches the service. -/
theorem reaches_report :
    configuredClient.Reaches "GET" (Client.reportPath (runNamed "run-1").runId) none := by
  have asked := beginStatus_configured "" [] []
  simp only [beginStatus, ofEnvironment_configured, Prod.mk.injEq, Except.ok.injEq,
    PendingStatus.mk.injEq, true_and] at asked
  exact Client.reaches_of_send (Prod.ext asked.1 asked.2)

/-- A reply of success with a text that is not JSON. -/
def garbledReply : Reply := .answer 200 "oops"

theorem not_holds_garbledReply (fields : List (String × Json)) : ¬garbledReply.Holds fields := by
  intro holds
  have unread : garbledReply.read = .error (.unreadable .malformed) := by cbv
  rw [← Reply.read_eq_ok_iff, unread] at holds
  contradiction

theorem not_fails_garbledReply (error : Remote.ServiceError) : ¬garbledReply.Fails error := by
  rintro (_ | ⟨_, problem⟩)
  exact problem (by decide)

/-- A reply that is no JSON ends a start without an answer. -/
theorem not_failuresSurface : ¬FailuresSurface := by
  intro surface
  rcases surface configured configuredClient ⟨[garbledReply], []⟩ ofEnvironment_configured
    hasPlainKey_configuredClient with ⟨_, _, answered, _⟩
  have neither := answered none startBody "project" readProject_startBody
  rw [startRun_answers_iff ofEnvironment_configured readProject_startBody,
    startRun_answers_iff ofEnvironment_configured readProject_startBody] at neither
  rcases neither with ⟨_, ⟨⟨fields, holds, _⟩, _⟩ | ⟨_, other⟩⟩ | ⟨_, ⟨_, other⟩ | ⟨⟨error, fails⟩, _⟩⟩
  · exact not_holds_garbledReply fields holds
  · exact absurd other (by decide)
  · exact absurd other (by decide)
  · exact not_fails_garbledReply error fails

/-- With such a reply neither a start nor a poll is answered. -/
theorem failures_surface_iff_of_garbledReply :
    ¬(startRun configured ⟨none, ⟨[garbledReply], []⟩⟩ startBody).1.Answers 200 ∧
      ¬(startRun configured ⟨none, ⟨[garbledReply], []⟩⟩ startBody).1.Answers 502 ∧
      ¬(showStatus configured ⟨some (runNamed "run-1"), ⟨[garbledReply], []⟩⟩).1.Answers 200 := by
  rcases (failures_surface_iff ⟨[garbledReply], []⟩).2.2 configured configuredClient
    ofEnvironment_configured with ⟨started, _, polled⟩
  rcases started none startBody "project" readProject_startBody with ⟨succeeds, fails⟩
  rw [succeeds, fails, polled _ reaches_report]
  refine ⟨?_, ?_, ?_⟩
  · rintro ⟨_, fields, holds, _⟩
    exact not_holds_garbledReply fields holds
  · rintro ⟨_, error, fails⟩
    exact not_fails_garbledReply error fails
  · rintro ⟨_, ⟨error, fails⟩ | ⟨fields, holds, _⟩⟩
    · exact not_fails_garbledReply error fails
    · exact not_holds_garbledReply fields holds

end Malformed

end DeliveryCycle.Api
