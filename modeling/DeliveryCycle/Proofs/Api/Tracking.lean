import DeliveryCycle.Api.Interleaving
import DeliveryCycle.Proofs.Remote.Replies

/-!
# What stays tracked

Only two things change what is tracked: a start that records its run, and a poll that learns that
the run it asked about has ended. `Notice` is what a turn makes known in this way. What is tracked
after a history is what its last notice says, by `after_tracking`.

A run is due to be dropped once another run is recorded or a poll that asked about it learns that it
has ended. A run should stay tracked until it is due. It does not: a poll clears what is tracked
whatever it asked about. If the poll waits while another run is recorded, this run is lost.
`stays_iff` is the exact condition: nothing is lost from a state on if and only if no poll that
waits in it asked about another run and learns of an end.
-/

namespace DeliveryCycle.Api

open Remote (CallError Client Reply SentRequest ServiceError Wire)

/-- The run that a start records when it goes on, if any. -/
def PendingStart.recorded? (start : PendingStart) : Option TrackedRun :=
  match start.reply.bind Reply.read with
  | .error _ => none
  | .ok fields => some ⟨Remote.answerField fields "id", start.project⟩

/-- Whether a poll learns that the run it asked about has ended. -/
def PendingStatus.learnsEnd (poll : PendingStatus) : Bool :=
  match poll.reply.bind Reply.read with
  | .error _ => false
  | .ok fields => !isRunning (Remote.answerField fields "status")

/-- A start that goes on tracks the run that it records. -/
theorem PendingStart.finish_tracking (start : PendingStart) (tracking : Tracking) :
    (start.finish tracking).2 = start.recorded?.or tracking := by
  unfold PendingStart.finish PendingStart.recorded?
  cases start.reply.bind Reply.read with
  | ok fields => rfl
  | error error => cases error <;> rfl

/-- A poll that goes on tracks nothing any more if it learns of an end, and else changes nothing. -/
theorem PendingStatus.finish_tracking (poll : PendingStatus) (tracking : Tracking) :
    (poll.finish tracking).2 = if poll.learnsEnd then none else tracking := by
  unfold PendingStatus.finish PendingStatus.learnsEnd
  cases poll.reply.bind Reply.read with
  | ok fields => cases running : isRunning (Remote.answerField fields "status") <;> simp [running]
  | error error => cases error <;> rfl

/-- What a turn makes known about runs. -/
inductive Notice where
  | recorded (run : TrackedRun)
  | ended (poll : PendingStatus)

/-- What is tracked after a notice. -/
def Notice.tracking : Notice → Tracking
  | .recorded run => some run
  | .ended _ => none

/-- What a turn makes known, if anything. -/
def Turn.notice? (turn : Turn) (state : Concurrent) : Option Notice :=
  match turn with
  | .startArrives _ _ | .pollArrives _ => none
  | .startResumes position =>
      (state.starts[position]?.bind PendingStart.recorded?).map .recorded
  | .pollResumes position => (state.polls[position]?.filter (·.learnsEnd)).map .ended

/-- What the turns of a history make known, in their order. -/
def Concurrent.notices (state : Concurrent) : List Turn → List Notice
  | [] => []
  | turn :: rest => (turn.notice? state).toList ++ (turn.take state).notices rest

/-- What a turn makes known is tracked after it; other turns change nothing about it. -/
theorem Turn.take_tracking (turn : Turn) (state : Concurrent) :
    (turn.take state).tracking =
      match turn.notice? state with
      | none => state.tracking
      | some notice => notice.tracking := by
  cases turn with
  | startArrives environment body =>
      simp only [Turn.take, Turn.notice?]
      rcases beginStart environment state.wire body with ⟨handled | start, wire⟩ <;> rfl
  | pollArrives environment =>
      simp only [Turn.take, Turn.notice?]
      rcases beginStatus environment state.wire state.tracking with ⟨handled | poll, wire⟩ <;> rfl
  | startResumes position =>
      simp only [Turn.take, Turn.notice?]
      cases state.starts[position]? with
      | none => rfl
      | some start =>
          simp only [PendingStart.finish_tracking, Option.bind_some]
          cases start.recorded? <;> rfl
  | pollResumes position =>
      simp only [Turn.take, Turn.notice?]
      cases state.polls[position]? with
      | none => rfl
      | some poll =>
          simp only [PendingStatus.finish_tracking]
          cases learned : poll.learnsEnd <;> simp [Option.filter, learned, Notice.tracking]

/-- What is tracked after a history is what its last notice says. -/
theorem Concurrent.after_tracking (state : Concurrent) (turns : List Turn) :
    (state.after turns).tracking =
      match (state.notices turns).getLast? with
      | none => state.tracking
      | some notice => notice.tracking := by
  induction turns generalizing state with
  | nil => rfl
  | cons turn rest ih =>
      have step := turn.take_tracking state
      have later := ih (turn.take state)
      simp only [Concurrent.after, List.foldl_cons, Concurrent.notices] at later ⊢
      rw [later, List.getLast?_append]
      cases (Concurrent.notices (turn.take state) rest).getLast? with
      | some notice => rfl
      | none =>
          rw [step]
          cases turn.notice? state <;> rfl

section Due

/-- The address at which the service is asked about a run. -/
def statusAddress (runId : Json) : Except CallError Address :=
  (⟨"", "", Remote.serviceAddress⟩ : Client).address
    ("/tasks/".toList.map (·.toNat) ++ runId.displayCodes)

/-- The identifier that the service reads in a question about a run. -/
def TrackedRun.askedAs? (run : TrackedRun) : Option (List Char) :=
  match statusAddress run.runId with
  | .error _ => none
  | .ok address => some (Text.decodePercent (address.path.drop "/v1/tasks/".length))

/-- The identifier of a run as it is displayed. -/
def TrackedRun.identifier (run : TrackedRun) : List Char :=
  run.runId.displayCodes.map Text.charOfCode

/-- A poll asked the service about a run: its question names this run. -/
def PendingStatus.AsksAbout (poll : PendingStatus) (run : TrackedRun) : Prop :=
  poll.run.askedAs? = some run.identifier

/-- With a notice a run is due to be dropped: another run is recorded, or a poll that asked about it
learned that it has ended. -/
def Notice.IsDue (run : TrackedRun) : Notice → Prop
  | .recorded _ => True
  | .ended poll => poll.AsksAbout run

/-- A run stays tracked during a history unless it is due to be dropped. -/
def Concurrent.StaysDuring (state : Concurrent) (run : TrackedRun) (turns : List Turn) : Prop :=
  (∀ notice ∈ state.notices turns, ¬notice.IsDue run) → (state.after turns).tracking = some run

/-- Once a start recorded a run, it stays tracked until it is due to be dropped. -/
def NeverLost : Prop :=
  ∀ (wire : Wire) (before : List Turn) (turn : Turn) (run : TrackedRun),
    turn.notice? ((Concurrent.initial wire).after before) = some (.recorded run) →
      ∀ turns, (turn.take ((Concurrent.initial wire).after before)).StaysDuring run turns

/-- A poll that waits asked about the run that was tracked when it arrived. -/
theorem run_of_beginStatus {environment : Environment} {wire after : Wire} {tracking : Tracking}
    {poll : PendingStatus} (arrived : beginStatus environment wire tracking = (.ok poll, after)) :
    tracking = some poll.run := by
  unfold beginStatus at arrived
  split at arrived
  · simp at arrived
  · split at arrived
    · simp at arrived
    · simp only [Prod.mk.injEq, Except.ok.injEq] at arrived
      rw [← arrived.1]

theorem base_of_ofEnvironment {environment : Environment} {client : Client}
    (described : Client.ofEnvironment environment = some client) :
    client.base = Remote.serviceAddress := by
  unfold Client.ofEnvironment Client.create at described
  split at described
  · rename_i created
    simp only [Option.some.injEq] at described
    split at created
    · simp at created
    · simp at created
    · simp only [Except.ok.injEq] at created
      rw [← described, ← created]
      rfl
  · simp at described

namespace Concurrent

variable {state : Concurrent} {run : TrackedRun} {turn : Turn} {turns : List Turn}

/-- A poll that waits after a turn waited before, or it arrived and asked about the tracked run. -/
theorem mem_polls_take {poll : PendingStatus} (waits : poll ∈ (turn.take state).polls) :
    poll ∈ state.polls ∨ state.tracking = some poll.run := by
  cases turn with
  | startArrives environment body =>
      simp only [Turn.take] at waits
      split at waits <;> exact .inl waits
  | startResumes position =>
      simp only [Turn.take] at waits
      split at waits <;> exact .inl waits
  | pollArrives environment =>
      simp only [Turn.take] at waits
      split at waits
      · exact .inl waits
      · rename_i arrived wire begun
        rcases List.mem_append.mp waits with waited | new
        · exact .inl waited
        · simp only [List.mem_singleton] at new
          exact .inr (new ▸ run_of_beginStatus begun)
  | pollResumes position =>
      simp only [Turn.take] at waits
      split at waits
      · exact .inl waits
      · exact .inl (List.mem_of_mem_eraseIdx waits)

theorem mem_polls_of_ended {poll : PendingStatus}
    (known : turn.notice? state = some (.ended poll)) :
    poll ∈ state.polls ∧ poll.learnsEnd = true := by
  cases turn with
  | startArrives | pollArrives => simp [Turn.notice?] at known
  | startResumes position =>
      rcases Option.map_eq_some_iff.mp known with ⟨recorded, _, same⟩
      contradiction
  | pollResumes position =>
      simp only [Turn.notice?, Option.map_eq_some_iff, Option.filter_eq_some_iff] at known
      rcases known with ⟨found, ⟨waits, learns⟩, same⟩
      simp only [Notice.ended.injEq] at same
      subst same
      exact ⟨List.mem_of_getElem? waits, learns⟩

/-- A run is tracked, and every poll that waits and learns of an end asked about this run. -/
structure Guards (state : Concurrent) (run : TrackedRun) : Prop where
  tracked : state.tracking = some run
  waiting : ∀ poll ∈ state.polls, poll.learnsEnd = true → poll.AsksAbout run

/-- A turn with which a guarded run is not due makes nothing known. -/
theorem Guards.silent (guards : state.Guards run)
    (notDue : ∀ notice ∈ turn.notice? state, ¬notice.IsDue run) : turn.notice? state = none := by
  apply Option.eq_none_iff_forall_ne_some.mpr
  intro notice known
  cases notice with
  | recorded other => exact notDue _ known trivial
  | ended poll =>
      rcases mem_polls_of_ended known with ⟨waits, learns⟩
      exact notDue _ known (guards.waiting poll waits learns)

/-- A turn with which a guarded run is not due keeps it guarded, if a question about the run names
it. -/
theorem Guards.take (guards : state.Guards run) (named : run.askedAs? = some run.identifier)
    (notDue : ∀ notice ∈ turn.notice? state, ¬notice.IsDue run) : (turn.take state).Guards run := by
  constructor
  · rw [turn.take_tracking, guards.silent notDue]
    exact guards.tracked
  · intro poll waits learns
    rcases mem_polls_take waits with waited | tracked
    · exact guards.waiting poll waited learns
    · have own : run = poll.run := Option.some.inj (guards.tracked.symm.trans tracked)
      rw [PendingStatus.AsksAbout, ← own]
      exact named

/-- A history during which a guarded run is not due keeps it guarded. -/
theorem Guards.after (guards : state.Guards run) (named : run.askedAs? = some run.identifier)
    (notDue : ∀ notice ∈ state.notices turns, ¬notice.IsDue run) :
    (state.after turns).Guards run := by
  induction turns generalizing state with
  | nil => exact guards
  | cons turn rest ih =>
      have next : (turn.take state).Guards run := by
        apply guards.take named
        intro notice known
        exact notDue notice (List.mem_append_left _ (Option.mem_toList.mpr known))
      apply ih next
      intro notice known
      exact notDue notice (List.mem_append_right _ known)

/-- During a history a tracked run stays until it is due exactly if it is due, or no poll at all
learns of an end. -/
theorem staysDuring_iff (tracked : state.tracking = some run) :
    state.StaysDuring run turns ↔
      (∃ notice ∈ state.notices turns, notice.IsDue run) ∨ state.notices turns = [] := by
  have last := state.after_tracking turns
  constructor
  · intro stays
    by_cases due : ∃ notice ∈ state.notices turns, notice.IsDue run
    · exact .inl due
    · have kept := stays fun notice known isDue => due ⟨notice, known, isDue⟩
      right
      apply List.getLast?_eq_none_iff.mp
      apply Option.eq_none_iff_forall_ne_some.mpr
      intro notice isLast
      rw [kept, isLast] at last
      cases notice with
      | recorded other => exact due ⟨_, List.mem_of_getLast? isLast, trivial⟩
      | ended poll => simp [Notice.tracking] at last
  · rintro (⟨notice, known, due⟩ | silent) notDue
    · exact absurd due (notDue notice known)
    · rw [last, silent]
      exact tracked

/-- From a state on, a tracked run that questions name stays until it is due exactly if every poll
that waits and learns of an end asked about this run. -/
theorem forall_staysDuring_iff (tracked : state.tracking = some run)
    (named : run.askedAs? = some run.identifier) :
    (∀ turns, state.StaysDuring run turns) ↔
      ∀ poll ∈ state.polls, poll.learnsEnd = true → poll.AsksAbout run := by
  constructor
  · intro stays poll waits learns
    rcases List.mem_iff_getElem?.mp waits with ⟨position, found⟩
    by_contra other
    have known : (Turn.pollResumes position).notice? state = some (.ended poll) := by
      simp [Turn.notice?, found, Option.filter, learns]
    have lost : (state.after [.pollResumes position]).tracking = none := by
      simp only [Concurrent.after, List.foldl_cons, List.foldl_nil, Turn.take_tracking, known]
      rfl
    have kept := stays [.pollResumes position] (by simpa [notices, known, Notice.IsDue] using other)
    exact absurd (lost.symm.trans kept) (by simp)
  · intro waiting turns notDue
    exact (Guards.after ⟨tracked, waiting⟩ named notDue).tracked

/-- Exactly when a tracked run stays until it is due. During one history it stays if and only if it
is due in it, or no poll at all learns of an end. If questions about the run name it, it stays
during all histories from a state on if and only if every poll that waits in this state and learns
of an end asked about this run. -/
theorem stays_iff (tracked : state.tracking = some run) :
    (∀ turns, state.StaysDuring run turns ↔
        (∃ notice ∈ state.notices turns, notice.IsDue run) ∨ state.notices turns = []) ∧
      (run.askedAs? = some run.identifier →
        ((∀ turns, state.StaysDuring run turns) ↔
          ∀ poll ∈ state.polls, poll.learnsEnd = true → poll.AsksAbout run)) :=
  ⟨fun _ => staysDuring_iff tracked, forall_staysDuring_iff tracked⟩

end Concurrent

end Due

section Race

/-- An environment that describes a client. -/
def configured : Environment := [("RENDER_API_KEY", "key"), ("RENDER_WORKFLOW_SLUG", "flow")]

/-- The body of a request for a run. -/
def startBody : String := "\x7b\"project_name\":\"project\"\x7d"

/-- The question that such a request leads to. -/
def startRequest : SentRequest where
  method := "POST"
  url := "https://api.render.com/v1/tasks"
  authorization := "Bearer key"
  contentType := "application/json"
  body := some (.object [("task", .string "flow/calculate_business_cycle_time"),
    ("input", .array [.string "project"])])

/-- The question about the first run. -/
def statusRequest : SentRequest where
  method := "GET"
  url := "https://api.render.com/v1/tasks/run-1"
  authorization := "Bearer key"
  contentType := "application/json"
  body := none

def runNamed (id : String) : TrackedRun := ⟨.string id, "project"⟩

/-- The reply to a request for a run that is started under an identifier. -/
def startedReply (id : String) : Reply := .answer 200 ("\x7b\"id\":\"" ++ id ++ "\"\x7d")

/-- The reply to a question about a run that has ended. -/
def endedReply : Reply := .answer 200 "\x7b\"status\":\"succeeded\"\x7d"

/-- The poll that asks about a run and gets this reply. -/
def endedPoll (id : String) : PendingStatus := ⟨runNamed id, .ok endedReply⟩

/-- The client that the environment describes. -/
def configuredClient : Client := ⟨"key", "flow", Remote.serviceAddress⟩

theorem ofEnvironment_configured : Client.ofEnvironment configured = some configuredClient := by
  cbv

theorem hasPlainKey_configuredClient : configuredClient.HasPlainKey :=
  Client.checkAscii_key_iff _ |>.mp (by cbv)

set_option maxRecDepth 4000 in
theorem readProject_startBody : readProject startBody = .ok "project" := by
  cbv

theorem startRequest_eq :
    configuredClient.startRequest Job.calculationName "project" = startRequest := by
  cbv

theorem beginStart_configured (text : String) (rest : List Reply) (sent : List SentRequest) :
    beginStart configured ⟨.answer 200 text :: rest, sent⟩ startBody =
      (.ok ⟨"project", .ok (.answer 200 text)⟩, ⟨rest, sent ++ [startRequest]⟩) := by
  simp only [beginStart, readProject_startBody, ofEnvironment_configured,
    Client.sendStart_of_plain rfl hasPlainKey_configuredClient, startRequest_eq]
  rfl

set_option maxRecDepth 4000 in
theorem beginStatus_configured (text : String) (rest : List Reply) (sent : List SentRequest) :
    beginStatus configured ⟨.answer 200 text :: rest, sent⟩ (some (runNamed "run-1")) =
      (.ok ⟨runNamed "run-1", .ok (.answer 200 text)⟩, ⟨rest, sent ++ [statusRequest]⟩) := by
  cbv

theorem recorded?_first :
    PendingStart.recorded? ⟨"project", .ok (startedReply "run-1")⟩ = some (runNamed "run-1") := by
  cbv

theorem recorded?_second :
    PendingStart.recorded? ⟨"project", .ok (startedReply "run-2")⟩ = some (runNamed "run-2") := by
  cbv

theorem learnsEnd_endedPoll (id : String) : (endedPoll id).learnsEnd = true := by
  cbv

/-- A poll about the first run did not ask about the second one. -/
theorem not_asksAbout_second : ¬(endedPoll "run-1").AsksAbout (runNamed "run-2") := by
  have asked : (runNamed "run-1").askedAs? = some (runNamed "run-1").identifier := by cbv
  have differ : (runNamed "run-1").identifier ≠ (runNamed "run-2").identifier := by decide
  simpa [PendingStatus.AsksAbout, endedPoll, asked] using differ

/-- The replies to a start, to a poll and to a second start. -/
def raceWire : Wire := ⟨[startedReply "run-1", endedReply, startedReply "run-2"], []⟩

/-- A run is recorded, a poll asks about it, and while it waits another start arrives. -/
def raceTurns : List Turn :=
  [.startArrives configured startBody, .startResumes 0, .pollArrives configured,
    .startArrives configured startBody]

/-- The service when the second start is about to go on. -/
def raceState : Concurrent where
  tracking := some (runNamed "run-1")
  wire := ⟨[], [startRequest, statusRequest, startRequest]⟩
  starts := [⟨"project", .ok (startedReply "run-2")⟩]
  polls := [endedPoll "run-1"]

/-- The turns lead to this state. -/
theorem after_raceTurns : (Concurrent.initial raceWire).after raceTurns = raceState := by
  have started : (Turn.startArrives configured startBody).take (.initial raceWire) =
      ⟨none, ⟨[endedReply, startedReply "run-2"], [startRequest]⟩,
        [⟨"project", .ok (startedReply "run-1")⟩], []⟩ := by
    simp [Turn.take, Concurrent.initial, raceWire, startedReply, beginStart_configured]
  have recorded : (Turn.startResumes 0).take
      ⟨none, ⟨[endedReply, startedReply "run-2"], [startRequest]⟩,
        [⟨"project", .ok (startedReply "run-1")⟩], []⟩ =
      ⟨some (runNamed "run-1"), ⟨[endedReply, startedReply "run-2"], [startRequest]⟩, [], []⟩ := by
    simp [Turn.take, PendingStart.finish_tracking, recorded?_first]
  have polled : (Turn.pollArrives configured).take
      ⟨some (runNamed "run-1"), ⟨[endedReply, startedReply "run-2"], [startRequest]⟩, [], []⟩ =
      ⟨some (runNamed "run-1"), ⟨[startedReply "run-2"], [startRequest, statusRequest]⟩, [],
        [endedPoll "run-1"]⟩ := by
    simp [Turn.take, endedReply, endedPoll, beginStatus_configured]
  have again : (Turn.startArrives configured startBody).take
      ⟨some (runNamed "run-1"), ⟨[startedReply "run-2"], [startRequest, statusRequest]⟩, [],
        [endedPoll "run-1"]⟩ = raceState := by
    simp [Turn.take, startedReply, raceState, beginStart_configured]
  simp only [Concurrent.after, raceTurns, List.foldl_cons, List.foldl_nil, started, recorded,
    polled, again]

theorem notice?_raceState :
    (Turn.startResumes 0).notice? raceState = some (.recorded (runNamed "run-2")) := by
  simp [Turn.notice?, raceState, recorded?_second]

theorem tracking_lostState :
    ((Turn.startResumes 0).take raceState).tracking = some (runNamed "run-2") := by
  rw [Turn.take_tracking, notice?_raceState]
  rfl

theorem askedAs?_second : (runNamed "run-2").askedAs? = some (runNamed "run-2").identifier := by
  cbv

/-- A run is lost: the poll that asked about the run before it learns of an end and clears it. -/
theorem not_neverLost : ¬NeverLost := by
  intro neverLost
  have recorded : (Turn.startResumes 0).notice? ((Concurrent.initial raceWire).after raceTurns) =
      some (.recorded (runNamed "run-2")) := by
    rw [after_raceTurns]
    exact notice?_raceState
  have stays := neverLost raceWire raceTurns (.startResumes 0) (runNamed "run-2") recorded
  rw [after_raceTurns] at stays
  have asked := (Concurrent.forall_staysDuring_iff tracking_lostState askedAs?_second).mp stays
  exact not_asksAbout_second (asked (endedPoll "run-1") List.mem_cons_self (learnsEnd_endedPoll _))

/-- The run that the second start recorded does not stay in all histories from there on. -/
theorem not_forall_staysDuring_lostState :
    ¬∀ turns, ((Turn.startResumes 0).take raceState).StaysDuring (runNamed "run-2") turns := by
  intro stays
  have asked := ((Concurrent.stays_iff tracking_lostState).2 askedAs?_second).mp stays
  exact not_asksAbout_second (asked (endedPoll "run-1") List.mem_cons_self (learnsEnd_endedPoll _))

set_option maxRecDepth 4000 in
/-- A run is also lost without a race if its identifier holds a mark: the service, which reads the
identifier up to the mark, is asked about another run and answers that this one has ended. -/
theorem not_staysDuring_of_mark :
    ¬(Concurrent.mk (some (runNamed "run-1#2")) ⟨[endedReply], []⟩ [] []).StaysDuring
      (runNamed "run-1#2") [.pollArrives configured, .pollResumes 0] := by
  have arrives : beginStatus configured ⟨[endedReply], []⟩ (some (runNamed "run-1#2")) =
      (.ok (endedPoll "run-1#2"), ⟨[], [statusRequest]⟩) := by cbv
  have asked : (runNamed "run-1#2").askedAs? = some (runNamed "run-1").identifier := by cbv
  have differ : (runNamed "run-1").identifier ≠ (runNamed "run-1#2").identifier := by decide
  have known : (Concurrent.mk (some (runNamed "run-1#2")) ⟨[endedReply], []⟩ [] []).notices
      [.pollArrives configured, .pollResumes 0] = [.ended (endedPoll "run-1#2")] := by
    simp [Concurrent.notices, Turn.notice?, Turn.take, arrives, Option.filter, learnsEnd_endedPoll]
  rw [Concurrent.staysDuring_iff rfl, known]
  rintro (⟨notice, isLast, due⟩ | silent)
  · rw [List.mem_singleton.mp isLast, Notice.IsDue, PendingStatus.AsksAbout, endedPoll,
      asked] at due
    exact differ (Option.some.inj due)
  · simp at silent

end Race

end DeliveryCycle.Api
