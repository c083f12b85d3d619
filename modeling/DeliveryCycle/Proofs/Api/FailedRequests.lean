import DeliveryCycle.Proofs.Api.Answers

/-!
# What failed requests change

A start first tracks the run that the service gave it and then checks its answer, and a poll that is
told that no run goes on first forgets its run. `failed_requests_change_iff` says what this comes
to. A request for a run or about a run that fails changes what is tracked exactly if the service
replied with an object and this object holds an identifier or a status that no answer can repeat, or
the run of the poll has such an identifier. All other failures leave the tracked run as it was.
-/

namespace DeliveryCycle.Api

open Remote (Client Reply Wire)

/-- A request for a run gets it: its body names a project, the request can be sent, and the service
replies with an object. -/
inductive GetsRun (environment : Environment) (wire : Wire) (body : String) : TrackedRun → Prop
  | reply {client : Client} {project : String} {fields : List (String × Json)}
      (accepted : readProject body = .ok project)
      (described : Client.ofEnvironment environment = some client)
      (plain : client.HasPlainKey)
      (holds : wire.nextReply.Holds fields) :
      GetsRun environment wire body ⟨Remote.answerField fields "id", project⟩

/-- A question about a run is told a status: it can be sent, and the service replies with an
object. -/
inductive IsTold (environment : Environment) (wire : Wire) (run : TrackedRun) : Json → Prop
  | reply {client : Client} {fields : List (String × Json)}
      (described : Client.ofEnvironment environment = some client)
      (reaches : client.Reaches "GET" (Client.reportPath run.runId) none)
      (holds : wire.nextReply.Holds fields) :
      IsTold environment wire run (Remote.answerField fields "status")

section Steps

variable {environment : Environment} {state : ServiceState} {body : String}
variable {run : TrackedRun} {status : Json}

theorem startRun_of_getsRun (gets : GetsRun environment state.wire body run) :
    (startRun environment state body).1 = startSucceeded run ∧
      (startRun environment state body).2.tracking = some run := by
  rcases state with ⟨tracking, wire⟩
  rcases gets with ⟨accepted, described, plain, holds⟩
  have read := Reply.read_eq_ok_iff.mpr holds
  rw [startRun_of_plain described plain accepted]
  simp only [PendingStart.finish, Except.bind, read, true_and]

/-- A start that gets no run changes nothing and does not answer with success. -/
theorem startRun_of_noRun (none : ∀ run, ¬GetsRun environment state.wire body run) :
    ¬(startRun environment state body).1.Answers 200 ∧
      (startRun environment state body).2.tracking = state.tracking := by
  unfold startRun
  rcases beginStart_cases environment state.wire body with
    ⟨handled, begun, refused⟩ | ⟨client, project, reply, after, accepted, described, sent, begun⟩
  · rw [begun]
    refine ⟨?_, rfl⟩
    rintro ⟨response, answered, success⟩
    exact refused response answered success
  · rw [begun]
    dsimp only [PendingStart.finish]
    cases read : reply.bind Reply.read with
    | ok fields =>
        have brought : (client.sendStart state.wire Job.calculationName
            (.array [.string project])).1.bind Reply.read = .ok fields := by rw [sent, read]
        rcases Client.read_send_eq_ok_iff.mp brought with ⟨reaches, holds⟩
        have plain := (Client.reaches_start_iff (base_of_ofEnvironment described)
          Job.calculationName project).mp reaches
        exact absurd (.reply accepted described plain holds) (none _)
    | error error =>
        cases error <;> simp [Handled.Answers, startFailed, Response.problem]

theorem showStatus_of_told (tracked : state.tracking = some run)
    (told : IsTold environment state.wire run status) :
    (showStatus environment state).1 = ⟨statusTold run status, []⟩ ∧
      (showStatus environment state).2.tracking =
        if isRunning status then state.tracking else none := by
  rcases state with ⟨tracking, wire⟩
  cases tracked
  rcases told with ⟨described, reaches, holds⟩
  rcases Client.send_of_reaches reaches wire with ⟨after, sent⟩
  have read := Reply.read_eq_ok_iff.mpr holds
  rw [showStatus_of_sent described sent]
  simp only [PendingStatus.finish, Except.bind, read, true_and]

/-- A poll that is told no status changes nothing. -/
theorem showStatus_of_untold
    (untold : ∀ run status, state.tracking = some run → ¬IsTold environment state.wire run status) :
    (showStatus environment state).2.tracking = state.tracking := by
  unfold showStatus
  rcases beginStatus_cases environment state.wire state.tracking with
    ⟨error, begun⟩ | ⟨client, run, reply, after, tracked, described, sent, begun⟩
  · rw [begun]
  · rw [begun]
    dsimp only [PendingStatus.finish]
    cases read : reply.bind Reply.read with
    | ok fields =>
        have brought : (client.sendStatus state.wire run.runId).1.bind Reply.read =
            .ok fields := by rw [sent, read]
        rcases Client.read_send_eq_ok_iff.mp brought with ⟨reaches, holds⟩
        exact absurd (.reply described reaches holds) (untold run _ tracked)
    | error error => cases error <;> rfl

end Steps

namespace Served

/-- A start that is not answered with success. -/
def FailsToStart (served : Served) : Prop :=
  served.visit.route = .endpoint .startRun ∧ ¬served.handled.Answers 200

/-- A poll that ends in an error instead of an answer. -/
def FailsToTell (served : Served) : Prop :=
  served.visit.route = .endpoint .runStatus ∧ ∀ status, ¬served.handled.Answers status

/-- A request changes which run is tracked. -/
def Changes (served : Served) : Prop := served.next.tracking ≠ served.state.tracking

/-- The request gets this run from the service. -/
def Gets (served : Served) (run : TrackedRun) : Prop :=
  GetsRun served.visit.environment served.state.wire served.visit.request.body run

/-- The request asks about this run, and the service tells it this status. -/
def IsTold (served : Served) (run : TrackedRun) (status : Json) : Prop :=
  served.state.tracking = some run ∧
    Api.IsTold served.visit.environment served.state.wire run status

end Served

/-- Whatever request fails in this way, the tracked run stays as it was. -/
def KeepTheRun (fails : Served → Prop) : Prop :=
  ∀ served, fails served → ¬served.Changes

section Changes

variable {served : Served}

theorem failedStart_changes_iff : served.FailsToStart ∧ served.Changes ↔
    served.visit.route = .endpoint .startRun ∧
      ∃ run, served.Gets run ∧ ¬IsOptionalText run.runId ∧ served.state.tracking ≠ some run := by
  unfold Served.FailsToStart Served.Changes Served.handled Served.next
  rw [and_assoc, and_congr_right_iff]
  intro routed
  rw [Visit.serve_of_start routed]
  constructor
  · rintro ⟨unanswered, changed⟩
    by_cases given : ∃ run, served.Gets run
    · rcases given with ⟨run, gets⟩
      rcases startRun_of_getsRun gets with ⟨answer, tracked⟩
      rw [answer, answers_startSucceeded_iff] at unanswered
      rw [tracked] at changed
      exact ⟨run, gets, fun text => unanswered ⟨text, rfl⟩, Ne.symm changed⟩
    · exact absurd (startRun_of_noRun (not_exists.mp given)).2 changed
  · rintro ⟨run, gets, unfit, other⟩
    rcases startRun_of_getsRun gets with ⟨answer, tracked⟩
    rw [answer, tracked, answers_startSucceeded_iff]
    exact ⟨fun answered => unfit answered.1, Ne.symm other⟩

theorem failedPoll_changes_iff : served.FailsToTell ∧ served.Changes ↔
    served.visit.route = .endpoint .runStatus ∧
      ∃ run status, served.IsTold run status ∧ isRunning status = false ∧
        ¬(IsOptionalText run.runId ∧ IsOptionalText status) := by
  unfold Served.FailsToTell Served.Changes Served.handled Served.next
  rw [and_assoc, and_congr_right_iff]
  intro routed
  rw [Visit.serve_of_poll routed]
  constructor
  · rintro ⟨unanswered, changed⟩
    by_cases given : ∃ run status, served.IsTold run status
    · rcases given with ⟨run, status, tracked, told⟩
      rcases showStatus_of_told tracked told with ⟨answer, left⟩
      refine ⟨run, status, ⟨tracked, told⟩, ?_, ?_⟩
      · by_contra running
        rw [left, if_pos (by simpa using running)] at changed
        exact changed rfl
      · have unwritten := unanswered 200
        rw [answer, answers_statusTold_iff] at unwritten
        exact fun texts => unwritten ⟨texts, rfl⟩
    · refine absurd (showStatus_of_untold ?_) changed
      intro run status tracked told
      exact given ⟨run, status, tracked, told⟩
  · rintro ⟨run, status, ⟨tracked, told⟩, ended, unfit⟩
    rcases showStatus_of_told tracked told with ⟨answer, left⟩
    rw [answer, left, tracked]
    refine ⟨?_, by simp [ended]⟩
    intro code answered
    exact unfit (answers_statusTold_iff.mp answered).1

end Changes

/-- Which failed requests change what is tracked. A start that fails does so exactly if the service
gave it a run whose identifier no answer can repeat, other than the one that was tracked. A poll
that ends in an error does so exactly if it was told a status of a run that does not go on, and no
answer can repeat this status or the identifier of the run. -/
theorem failed_requests_change_iff (served : Served) :
    (served.FailsToStart ∧ served.Changes ↔
      served.visit.route = .endpoint .startRun ∧
        ∃ run, served.Gets run ∧ ¬IsOptionalText run.runId ∧ served.state.tracking ≠ some run) ∧
    (served.FailsToTell ∧ served.Changes ↔
      served.visit.route = .endpoint .runStatus ∧
        ∃ run status, served.IsTold run status ∧ isRunning status = false ∧
          ¬(IsOptionalText run.runId ∧ IsOptionalText status)) :=
  ⟨failedStart_changes_iff, failedPoll_changes_iff⟩

section Numbered

/-- A reply of success with a number in one of its fields. -/
def numberedReply (name : String) : Reply := .answer 200 ("\x7b\"" ++ name ++ "\":5\x7d")

theorem holds_numberedId : (numberedReply "id").Holds [("id", .int 5)] :=
  Reply.read_eq_ok_iff.mp (by cbv)

theorem holds_numberedStatus : (numberedReply "status").Holds [("status", .int 5)] :=
  Reply.read_eq_ok_iff.mp (by cbv)

theorem not_isOptionalText_int (value : Int) : ¬IsOptionalText (.int value) := nofun

/-- A start whose run has a number as its identifier is tracked, and a poll that is told a number as
the status forgets its run, although both fail. -/
theorem not_keepTheRun : ¬KeepTheRun Served.FailsToStart ∧ ¬KeepTheRun Served.FailsToTell := by
  constructor
  · intro keep
    let served : Served := ⟨startVisit, ⟨none, ⟨[numberedReply "id"], []⟩⟩⟩
    have holds : served.state.wire.nextReply.Holds [("id", .int 5)] := holds_numberedId
    have gets : served.Gets ⟨.int 5, "project"⟩ :=
      .reply readProject_startBody ofEnvironment_configured hasPlainKey_configuredClient holds
    rcases failedStart_changes_iff.mpr
      ⟨route_startVisit, _, gets, not_isOptionalText_int 5, nofun⟩ with ⟨fails, changes⟩
    exact keep served fails changes
  · intro keep
    let served : Served := ⟨pollVisit, ⟨some (runNamed "run-1"), ⟨[numberedReply "status"], []⟩⟩⟩
    have holds : served.state.wire.nextReply.Holds [("status", .int 5)] := holds_numberedStatus
    have told : served.IsTold (runNamed "run-1") (.int 5) :=
      ⟨rfl, .reply ofEnvironment_configured reaches_report holds⟩
    rcases failedPoll_changes_iff.mpr
      ⟨route_pollVisit, _, _, told, rfl, fun texts => not_isOptionalText_int 5 texts.2⟩ with
      ⟨fails, changes⟩
    exact keep served fails changes

end Numbered

end DeliveryCycle.Api
