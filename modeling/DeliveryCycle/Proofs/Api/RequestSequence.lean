import DeliveryCycle.Proofs.Api.Tracking

/-!
# Requests one after the other

A service that handles one request after the other tracks what its answers say. `Served.told?` is
what an answer says about runs: a start that succeeds says which run it started, and a poll that
was told of an end says that no run is tracked any more. `tracked_run_is_last_told` says that what
is tracked after any sequence of requests is what was told last.

This needs identifiers that can be written. A start whose run has another identifier is tracked like
any other one, but its answer fails, and so it tells nothing.
-/

namespace DeliveryCycle.Api

open Remote (Client Reply Wire)

/-- A request with all that it finds beside the state of the service. -/
structure Visit where
  environment : Environment
  ledger : Ledger
  request : Request

def Visit.route (visit : Visit) : Route := Api.route visit.request.method visit.request.path

def Visit.serve (visit : Visit) (state : ServiceState) : Handled × ServiceState :=
  handle visit.environment visit.ledger state visit.request

/-- The service after requests that were handled one after the other. -/
def ServiceState.after (state : ServiceState) (visits : List Visit) : ServiceState :=
  visits.foldl (fun current visit => (visit.serve current).2) state

/-- A request with the state in which it was handled. -/
structure Served where
  visit : Visit
  state : ServiceState

def Served.handled (served : Served) : Handled := (served.visit.serve served.state).1

def Served.next (served : Served) : ServiceState := (served.visit.serve served.state).2

/-- Requests that are handled one after the other, each with the state in which it was. -/
def ServiceState.trace (state : ServiceState) : List Visit → List Served
  | [] => []
  | visit :: rest => ⟨visit, state⟩ :: (visit.serve state).2.trace rest

/-- The run that a successful response is about. -/
def Response.run? (response : Response) : Option TrackedRun :=
  match response with
  | ⟨200, some body⟩ =>
      match body.field? "run_id", body.field? "project_name" with
      | some runId, some (.string project) => some ⟨runId, project⟩
      | _, _ => none
  | _ => none

/-- The status in the successful answer of the workflow service to a poll, if the poll gets one. -/
def ServiceState.toldStatus? (state : ServiceState) (environment : Environment) : Option Json :=
  match (beginStatus environment state.wire state.tracking).1 with
  | .error _ => none
  | .ok poll =>
      match poll.reply.bind Reply.read with
      | .ok fields => some (Remote.answerField fields "status")
      | .error _ => none

namespace Served

/-- The run with which a start was answered, if it succeeded. -/
def startedRun? (served : Served) : Option TrackedRun :=
  match served.handled.result with
  | .ok response => response.run?
  | .error _ => none

/-- What a request tells about runs. A start that succeeded tells which run is tracked now, and a
poll that was told another status than those of a run that goes on tells that none is. -/
def told? (served : Served) : Option Tracking :=
  match served.visit.route with
  | .endpoint .startRun => served.startedRun?.map some
  | .endpoint .runStatus =>
      match served.state.toldStatus? served.visit.environment with
      | some status => if isRunning status then none else some none
      | none => none
  | _ => none

end Served

theorem method_of_route {method : String} {path : List Char} {endpoint : Endpoint}
    (routed : route method path = .endpoint endpoint) : method = endpoint.method := by
  unfold route at routed
  split at routed
  · split at routed
    · rename_i same
      simp only [Route.endpoint.injEq] at routed
      exact routed ▸ same
    · contradiction
  · split at routed <;> contradiction

namespace Visit

variable {visit : Visit}

theorem serve_of_start (routed : visit.route = .endpoint .startRun) (state : ServiceState) :
    visit.serve state = startRun visit.environment state visit.request.body := by
  have posted : visit.request.method = "POST" := method_of_route routed
  have route : Api.route visit.request.method visit.request.path = .endpoint .startRun := routed
  simp only [serve, handle, respond, route, Endpoint.handle]
  simp [Handled.sent, posted]

theorem serve_of_poll (routed : visit.route = .endpoint .runStatus) (state : ServiceState) :
    visit.serve state = showStatus visit.environment state := by
  have got : visit.request.method = "GET" := method_of_route routed
  have route : Api.route visit.request.method visit.request.path = .endpoint .runStatus := routed
  simp only [serve, handle, respond, route, Endpoint.handle]
  simp [Handled.sent, got]

/-- Requests to other endpoints or to none change nothing about the service. -/
theorem serve_of_other (notStart : visit.route ≠ .endpoint .startRun)
    (notPoll : visit.route ≠ .endpoint .runStatus) (state : ServiceState) :
    (visit.serve state).2 = state := by
  have route : Api.route visit.request.method visit.request.path = visit.route := rfl
  simp only [serve, handle, respond, route]
  split
  · rename_i endpoint routed
    cases endpoint with
    | startRun => exact absurd routed notStart
    | runStatus => exact absurd routed notPoll
    | health | taskList | task | summary => rfl
  · rfl
  · rfl
  · rfl

end Visit

section Wire

/-- In all successful answers of the workflow service a field has only certain values. -/
def Gives (wire : Wire) (name : String) (suits : Json → Prop) : Prop :=
  ∀ reply ∈ wire.replies, ∀ fields, reply.read = .ok fields →
    ∀ value, getField? fields name = some value → suits value

/-- A text that can be written. -/
def IsString (value : Json) : Prop := ∃ text, value = .string text

/-- A text, also one with a surrogate that has no partner. -/
def IsText (value : Json) : Prop := IsString value ∨ ∃ codes, value = .unpaired codes

variable {client : Client} {wire after : Wire} {fields : List (String × Json)}

theorem read_of_taken {reply : Reply} {request : Remote.SentRequest}
    (answered : (reply.taken request).bind Reply.read = .ok fields) : reply.read = .ok fields := by
  cases reply with
  | answer status text =>
      cases origin : Remote.checkOrigin request.url.toList with
      | error error => simp [Reply.taken, origin, Except.mapError, bind, Except.bind] at answered
      | ok _ => simpa [Reply.taken, origin, Except.mapError, bind, Except.bind, pure,
          Except.pure] using answered
  | unreachable | badAddress | unwritable => exact answered

/-- A successful answer is one of the replies to come, and sending puts no reply on the wire. -/
theorem replies_of_send {method : String} {path : List Nat} {body : Option Json}
    {reply : Except Remote.CallError Reply}
    (sent : client.send wire method path body = (reply, after)) :
    after.replies <:+ wire.replies ∧
      ∀ fields, reply.bind Reply.read = .ok fields →
        ∃ reply ∈ wire.replies, reply.read = .ok fields := by
  unfold Client.send at sent
  split at sent
  · simp only [Prod.mk.injEq] at sent
    rcases sent with ⟨rfl, rfl⟩
    refine ⟨List.suffix_rfl, ?_⟩
    intro fields answered
    contradiction
  · simp only [Wire.exchange, Prod.mk.injEq] at sent
    rcases sent with ⟨rfl, rfl⟩
    refine ⟨List.drop_suffix 1 _, ?_⟩
    intro fields answered
    have read := read_of_taken answered
    cases replies : wire.replies with
    | nil =>
        rw [replies] at read
        contradiction
    | cons first rest =>
        rw [replies] at read
        exact ⟨first, List.mem_cons_self, read⟩

end Wire

section Begin

variable {environment : Environment} {wire : Wire} {body : String}

theorem BodyError.status_ne {error : BodyError} {response : Response}
    (answered : error.response = .ok response) : response.status ≠ 200 := by
  cases error with
  | missing | unreadable | unfinished =>
      simp only [BodyError.response, Except.ok.injEq] at answered
      subst response
      simp [Response.refusal, Response.problem]
  | refused issue input =>
      simp only [BodyError.response, Response.refusalOf] at answered
      split at answered
      · simp only [Except.ok.injEq] at answered
        subst response
        simp [Response.refusal]
      · contradiction

/-- A start that is not answered with an error at once sends a request. -/
theorem beginStart_cases (environment : Environment) (wire : Wire) (body : String) :
    (∃ handled, beginStart environment wire body = (.error handled, wire) ∧
        ∀ response, handled.result = .ok response → response.status ≠ 200) ∨
      ∃ client project reply after, readProject body = .ok project ∧
        Client.ofEnvironment environment = some client ∧
          Client.sendStart client wire Job.calculationName (.array [.string project]) =
              (reply, after) ∧
            beginStart environment wire body = (.ok ⟨project, reply⟩, after) := by
  unfold beginStart
  cases readProject body with
  | error error => exact .inl ⟨_, rfl, fun _ answered => error.status_ne answered⟩
  | ok project =>
      cases Client.ofEnvironment environment with
      | none =>
          refine .inl ⟨_, rfl, ?_⟩
          intro response answered
          simp only [notConfigured, Except.ok.injEq] at answered
          subst response
          simp [Response.problem]
      | some client => exact .inr ⟨client, project, _, _, rfl, rfl, rfl, rfl⟩

/-- A poll that is not answered at once asks about the tracked run. -/
theorem beginStatus_cases (environment : Environment) (wire : Wire) (tracking : Tracking) :
    (∃ error, beginStatus environment wire tracking = (.error (statusUnknown error), wire)) ∨
      ∃ client run reply after, tracking = some run ∧
        Client.ofEnvironment environment = some client ∧
          Client.sendStatus client wire run.runId = (reply, after) ∧
            beginStatus environment wire tracking = (.ok ⟨run, reply⟩, after) := by
  unfold beginStatus
  cases tracking with
  | none => exact .inl ⟨_, rfl⟩
  | some run =>
      cases Client.ofEnvironment environment with
      | none => exact .inl ⟨_, rfl⟩
      | some client => exact .inr ⟨client, run, _, _, rfl, rfl, rfl, rfl⟩

/-- A start changes nothing and does not answer with success, or it starts a run and tracks it. -/
theorem startRun_cases (environment : Environment) (state : ServiceState) (body : String) :
    let answered := startRun environment state body
    answered.2.wire.replies <:+ state.wire.replies ∧
      ((answered.2.tracking = state.tracking ∧
          ∀ response, answered.1.result = .ok response → response.status ≠ 200) ∨
        ∃ fields project, (∃ reply ∈ state.wire.replies, reply.read = .ok fields) ∧
          let run : TrackedRun := ⟨Remote.answerField fields "id", project⟩
          answered.1 = startSucceeded run ∧ answered.2.tracking = some run) := by
  unfold startRun
  rcases beginStart_cases environment state.wire body with
    ⟨handled, begun, refused⟩ | ⟨client, project, reply, after, _, _, sent, begun⟩
  · rw [begun]
    exact ⟨List.suffix_rfl, .inl ⟨rfl, refused⟩⟩
  · rw [begun]
    rcases replies_of_send sent with ⟨fewer, among⟩
    refine ⟨fewer, ?_⟩
    dsimp only [PendingStart.finish]
    cases read : reply.bind Reply.read with
    | ok fields => exact .inr ⟨fields, project, among fields read, rfl, rfl⟩
    | error error =>
        left
        cases error with
        | service failure =>
            refine ⟨rfl, ?_⟩
            intro response answered
            simp only [startFailed, Except.ok.injEq] at answered
            subst response
            simp [Response.problem]
        | _ => exact ⟨rfl, fun _ answered => by contradiction⟩

theorem response_of_checkedAnswer {issues : List Issue} {fields : List (String × Json)}
    {response : Response} (answered : checkedAnswer issues fields = .ok response) :
    response = .success (.object fields) := by
  unfold checkedAnswer at answered
  split at answered
  · split at answered
    · contradiction
    · exact (Except.ok.inj answered).symm
  · contradiction

/-- A poll answers with success or not at all, and it forgets the tracked run exactly if it is told
that no run goes on. -/
theorem showStatus_cases (environment : Environment) (state : ServiceState) :
    let answered := showStatus environment state
    answered.2.wire.replies <:+ state.wire.replies ∧
      (∀ response, answered.1.result = .ok response → response.status = 200) ∧
      answered.2.tracking =
        match state.toldStatus? environment with
        | some status => if isRunning status then state.tracking else none
        | none => state.tracking := by
  unfold showStatus ServiceState.toldStatus?
  rcases beginStatus_cases environment state.wire state.tracking with
    ⟨error, begun⟩ | ⟨client, run, reply, after, _, _, sent, begun⟩
  · rw [begun]
    refine ⟨List.suffix_rfl, ?_, rfl⟩
    intro response answered
    exact Except.ok.inj answered ▸ rfl
  · rw [begun]
    dsimp only [PendingStatus.finish]
    refine ⟨(replies_of_send sent).1, ?_, ?_⟩
    · intro response answered
      cases read : reply.bind Reply.read with
      | ok fields =>
          rw [read] at answered
          rw [response_of_checkedAnswer answered]
          rfl
      | error error =>
          rw [read] at answered
          cases error with
          | service failure =>
              rw [response_of_checkedAnswer answered]
              rfl
          | _ => contradiction
    · cases reply.bind Reply.read with
      | ok fields => rfl
      | error error => cases error <;> rfl

/-- The answer of a start tells the run, unless the run has an identifier that cannot be written. -/
theorem run?_of_startSucceeded (run : TrackedRun)
    (writable : run.runId = .null ∨ IsString run.runId) :
    ∃ response, (startSucceeded run).result = .ok response ∧ response.run? = some run := by
  rcases run with ⟨runId, project⟩
  rcases writable with rfl | ⟨text, rfl⟩
  · exact ⟨_, rfl, rfl⟩
  · exact ⟨_, rfl, rfl⟩

end Begin

theorem Response.run?_eq_none {response : Response} (problem : response.status ≠ 200) :
    response.run? = none := by
  unfold run?
  split
  · exact absurd rfl problem
  · rfl

theorem Gives.of_suffix {wire after : Wire} {name : String} {suits : Json → Prop}
    (gives : Gives wire name suits) (fewer : after.replies <:+ wire.replies) :
    Gives after name suits :=
  fun reply mem => gives reply (fewer.subset mem)

namespace Served

variable {served : Served}

/-- A request puts no reply on the wire. -/
theorem replies_next (served : Served) :
    served.next.wire.replies <:+ served.state.wire.replies := by
  unfold next
  by_cases isStart : served.visit.route = .endpoint .startRun
  · rw [Visit.serve_of_start isStart]
    exact (startRun_cases _ _ _).1
  · by_cases isPoll : served.visit.route = .endpoint .runStatus
    · rw [Visit.serve_of_poll isPoll]
      exact (showStatus_cases _ _).1
    · rw [Visit.serve_of_other isStart isPoll]

theorem next_tracking_of_start (named : Gives served.state.wire "id" IsString)
    (isStart : served.visit.route = .endpoint .startRun) :
    served.next.tracking = served.startedRun?.or served.state.tracking := by
  have step := startRun_cases served.visit.environment served.state served.visit.request.body
  rw [← Visit.serve_of_start isStart] at step
  unfold startedRun? handled next
  rcases step.2 with ⟨unchanged, problem⟩ | ⟨fields, project, ⟨reply, mem, read⟩, answer, tracked⟩
  · rw [unchanged]
    cases answered : (served.visit.serve served.state).1.result with
    | error error => rfl
    | ok response =>
        dsimp only
        rw [Response.run?_eq_none (problem response answered)]
        rfl
  · have writable : Remote.answerField fields "id" = .null ∨
        IsString (Remote.answerField fields "id") := by
      unfold Remote.answerField
      cases given : getField? fields "id" with
      | none => exact .inl rfl
      | some value => exact .inr (named reply mem fields read value given)
    rcases run?_of_startSucceeded ⟨Remote.answerField fields "id", project⟩ writable with
      ⟨response, answered, told⟩
    rw [answer, answered, tracked]
    dsimp only
    rw [told]
    rfl

theorem next_tracking_of_poll (isPoll : served.visit.route = .endpoint .runStatus) :
    served.next.tracking =
      match served.state.toldStatus? served.visit.environment with
      | some status => if isRunning status then served.state.tracking else none
      | none => served.state.tracking := by
  unfold next
  rw [Visit.serve_of_poll isPoll]
  exact (showStatus_cases _ _).2.2

theorem next_eq_of_other (notStart : served.visit.route ≠ .endpoint .startRun)
    (notPoll : served.visit.route ≠ .endpoint .runStatus) : served.next = served.state :=
  Visit.serve_of_other notStart notPoll served.state

/-- What a request tells is tracked after it; other requests change nothing about it. -/
theorem next_tracking (named : Gives served.state.wire "id" IsString) :
    served.next.tracking = served.told?.getD served.state.tracking := by
  unfold told?
  split
  · rename_i isStart
    rw [next_tracking_of_start named isStart]
    cases served.startedRun? <;> rfl
  · rename_i isPoll
    rw [next_tracking_of_poll isPoll]
    cases served.state.toldStatus? served.visit.environment with
    | none => rfl
    | some status =>
        dsimp only
        cases isRunning status <;> rfl
  · rename_i notStart notPoll
    rw [next_eq_of_other notStart notPoll]
    rfl

/-- What a start tells is in its answer. -/
theorem told?_of_serve {visit : Visit} {state next : ServiceState} {handled : Handled}
    (isStart : visit.route = .endpoint .startRun) (answer : visit.serve state = (handled, next)) :
    told? ⟨visit, state⟩ =
      (match handled.result with
        | .ok response => response.run?
        | .error _ => none).map some := by
  simp only [told?, isStart, startedRun?, Served.handled, answer]

/-- A request that is answered with another status than success changes nothing. -/
theorem next_tracking_of_problem {response : Response}
    (answered : served.handled.result = .ok response) (problem : response.status ≠ 200) :
    served.next.tracking = served.state.tracking := by
  unfold handled at answered
  unfold next
  by_cases isStart : served.visit.route = .endpoint .startRun
  · have step := startRun_cases served.visit.environment served.state served.visit.request.body
    rw [← Visit.serve_of_start isStart] at step
    rcases step.2 with ⟨unchanged, _⟩ | ⟨fields, project, _, answer, _⟩
    · exact unchanged
    · rw [answer] at answered
      rw [response_of_checkedAnswer answered] at problem
      exact absurd rfl problem
  · by_cases isPoll : served.visit.route = .endpoint .runStatus
    · have step := showStatus_cases served.visit.environment served.state
      rw [← Visit.serve_of_poll isPoll] at step
      exact absurd (step.2.1 response answered) problem
    · rw [Visit.serve_of_other isStart isPoll]

end Served

/-- What is tracked after requests is what was told last. -/
theorem ServiceState.after_tracking {state : ServiceState}
    (named : Gives state.wire "id" IsString) (visits : List Visit) :
    (state.after visits).tracking =
      ((state.trace visits).filterMap Served.told?).getLast?.getD state.tracking := by
  induction visits generalizing state with
  | nil => rfl
  | cons visit rest ih =>
      let served : Served := ⟨visit, state⟩
      have step : served.next.tracking = served.told?.getD state.tracking :=
        Served.next_tracking named
      have later := ih (named.of_suffix served.replies_next)
      have traced : state.trace (visit :: rest) = served :: served.next.trace rest := rfl
      have moved : state.after (visit :: rest) = served.next.after rest := rfl
      rw [traced, moved, List.filterMap_cons]
      refine later.trans ?_
      cases told : served.told? with
      | none =>
          rw [told] at step
          rw [step]
          rfl
      | some tracking =>
          rw [told] at step
          rw [step]
          dsimp only
          rw [List.getLast?_cons]
          rfl

theorem ServiceState.toldStatus?_of_unconfigured {environment : Environment}
    (unconfigured : Client.ofEnvironment environment = none) (state : ServiceState) :
    state.toldStatus? environment = none := by
  unfold toldStatus? beginStatus
  rw [unconfigured]
  cases state.tracking <;> rfl

/-- A poll while nothing is tracked asks nobody. -/
theorem showStatus_of_untracked {environment : Environment} {state : ServiceState}
    (untracked : state.tracking = none) :
    showStatus environment state = (statusUnknown .null, state) := by
  rcases state with ⟨tracking, wire⟩
  cases untracked
  rfl

/-- What is tracked after requests that were handled one after the other is what was told last: the
run of the last start that succeeded, or none if a later poll was told that no run goes on. Whoever
is answered with another status than success changes nothing about it, and so does a poll that finds
no client or gets no status. A poll while nothing is tracked leaves the service as it was, down to
the requests on the wire, and answers that nothing runs. -/
theorem tracked_run_is_last_told {state : ServiceState}
    (named : Gives state.wire "id" IsString) (visits : List Visit) :
    (state.after visits).tracking =
        ((state.trace visits).filterMap Served.told?).getLast?.getD state.tracking ∧
      ∀ served : Served,
        (∀ response, served.handled.result = .ok response → response.status ≠ 200 →
          served.next.tracking = served.state.tracking) ∧
        (served.visit.route = .endpoint .runStatus →
          (Client.ofEnvironment served.visit.environment = none ∨
              served.state.toldStatus? served.visit.environment = none →
            served.next.tracking = served.state.tracking) ∧
          (served.state.tracking = none → served.next = served.state ∧
            served.handled = .quiet (.success (.object
              [("running", .bool false), ("run_id", .null), ("project_name", .null),
                ("render_status", .null), ("error", .null)])))) := by
  refine ⟨state.after_tracking named visits, fun served => ⟨?_, fun isPoll => ⟨?_, ?_⟩⟩⟩
  · intro response answered problem
    exact Served.next_tracking_of_problem answered problem
  · intro untold
    have nothing : served.state.toldStatus? served.visit.environment = none :=
      untold.elim (fun unconfigured => ServiceState.toldStatus?_of_unconfigured unconfigured _) id
    rw [Served.next_tracking_of_poll isPoll, nothing]
  · intro untracked
    have answered := Visit.serve_of_poll isPoll served.state
    rw [showStatus_of_untracked untracked] at answered
    exact ⟨congrArg Prod.snd answered, congrArg Prod.fst answered⟩

section Instances

/-- A request for a run. -/
def startVisit : Visit := ⟨configured, [], ⟨"POST", startPath.toList, [], startBody⟩⟩

/-- A request for the status of the tracked run. -/
def pollVisit : Visit := ⟨configured, [], ⟨"GET", "/api/v1/runs/status".toList, [], ""⟩⟩

theorem route_startVisit : startVisit.route = .endpoint .startRun := by decide

theorem route_pollVisit : pollVisit.route = .endpoint .runStatus := by decide

/-- The request for a run is served with the next reply. -/
theorem serve_startVisit {text : String} {id : Json}
    (read : (Reply.answer 200 text).read = .ok [("id", id)]) (replies : List Reply) :
    startVisit.serve ⟨none, ⟨.answer 200 text :: replies, []⟩⟩ =
      (startSucceeded ⟨id, "project"⟩, ⟨some ⟨id, "project"⟩, ⟨replies, [startRequest]⟩⟩) := by
  rw [Visit.serve_of_start route_startVisit]
  unfold startRun startVisit
  dsimp only
  rw [beginStart_configured]
  dsimp only [PendingStart.finish, Except.bind]
  rw [read]
  rfl

theorem read_startedReply : (startedReply "run-1").read = .ok [("id", .string "run-1")] := by
  cbv

theorem read_endedReply : endedReply.read = .ok [("status", .string "succeeded")] := by
  cbv

/-- The service before a run is started and a poll is told that it has ended. -/
def endingState : ServiceState := ⟨none, ⟨[startedReply "run-1", endedReply], []⟩⟩

/-- The same service while the run goes on. -/
def goingState : ServiceState := ⟨some (runNamed "run-1"), ⟨[endedReply], [startRequest]⟩⟩

theorem toldStatus?_goingState :
    goingState.toldStatus? configured = some (.string "succeeded") := by
  unfold goingState ServiceState.toldStatus? endedReply
  rw [beginStatus_configured]
  dsimp only [Except.bind]
  rw [← endedReply, read_endedReply]
  rfl

/-- No run is tracked any more after the poll. -/
theorem tracked_run_is_last_told_of_ended :
    (endingState.after [startVisit]).tracking = some (runNamed "run-1") ∧
      (endingState.after [startVisit, pollVisit]).tracking = none := by
  have named : Gives endingState.wire "id" IsString := by
    intro reply mem fields read value given
    rcases List.mem_cons.mp mem with rfl | last
    · rw [read_startedReply] at read
      cases read
      exact ⟨"run-1", (Option.some.inj given).symm⟩
    · rw [List.mem_singleton.mp last, read_endedReply] at read
      cases read
      contradiction
  have served : startVisit.serve endingState = (startSucceeded (runNamed "run-1"), goingState) :=
    serve_startVisit read_startedReply [endedReply]
  have started : Served.told? ⟨startVisit, endingState⟩ = some (some (runNamed "run-1")) := by
    rcases run?_of_startSucceeded (runNamed "run-1") (.inr ⟨_, rfl⟩) with
      ⟨response, answered, told⟩
    rw [Served.told?_of_serve route_startVisit served, answered]
    dsimp only
    rw [told]
    rfl
  have ended : Served.told? ⟨pollVisit, goingState⟩ = some none := by
    unfold Served.told?
    rw [route_pollVisit]
    dsimp only [pollVisit]
    rw [toldStatus?_goingState]
    rfl
  constructor
  · rw [(tracked_run_is_last_told named [startVisit]).1]
    simp only [ServiceState.trace, List.filterMap_cons, List.filterMap_nil, started]
    rfl
  · rw [(tracked_run_is_last_told named [startVisit, pollVisit]).1]
    simp only [ServiceState.trace, served, List.filterMap_cons, List.filterMap_nil, started, ended]
    rfl

/-- The reply to a request for a run whose identifier is half of a pair of surrogates. -/
def unpairedReply : Reply := .answer 200 "\x7b\"id\":\"\\ud800\"\x7d"

theorem read_unpairedReply : unpairedReply.read = .ok [("id", .unpaired [0xD800])] := by
  cbv

/-- The condition that identifiers can be written is needed. A start whose run has another one is
tracked, although its answer fails. -/
theorem not_tracked_run_is_last_told_of_text :
    ¬∀ (state : ServiceState) (visits : List Visit),
      Gives state.wire "id" IsText → Gives state.wire "status" IsText →
        (state.after visits).tracking =
          ((state.trace visits).filterMap Served.told?).getLast?.getD state.tracking := by
  intro law
  have texts : ∀ name, Gives ⟨[unpairedReply], []⟩ name IsText := by
    intro name reply mem fields read value given
    rw [List.mem_singleton.mp mem, read_unpairedReply] at read
    cases read
    rcases Option.map_eq_some_iff.mp given with ⟨field, found, rfl⟩
    have field := List.mem_singleton.mp (List.mem_of_find?_eq_some found)
    exact .inr ⟨[0xD800], congrArg Prod.snd field⟩
  have served : startVisit.serve ⟨none, ⟨[unpairedReply], []⟩⟩ =
      (startSucceeded ⟨.unpaired [0xD800], "project"⟩,
        ⟨some ⟨.unpaired [0xD800], "project"⟩, ⟨[], [startRequest]⟩⟩) :=
    serve_startVisit read_unpairedReply []
  have silent : Served.told? ⟨startVisit, ⟨none, ⟨[unpairedReply], []⟩⟩⟩ = none := by
    have unanswered : (startSucceeded ⟨.unpaired [0xD800], "project"⟩).result =
        .error (.answerUnwritable ⟨0xD800, 0, 1⟩) := by cbv
    rw [Served.told?_of_serve route_startVisit served, unanswered]
    rfl
  have same := law ⟨none, ⟨[unpairedReply], []⟩⟩ [startVisit] (texts _) (texts _)
  simp only [ServiceState.trace, List.filterMap_cons, List.filterMap_nil, silent,
    ServiceState.after, List.foldl_cons, List.foldl_nil, served, List.getLast?_nil,
    Option.getD_none, reduceCtorEq] at same

end Instances

end DeliveryCycle.Api
