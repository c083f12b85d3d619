import DeliveryCycle.Proofs.Record.Summary
import DeliveryCycle.Proofs.Run.SingleRecords

/-!
# What the endpoints for records show

The list, the single record and the summary are three views of one ledger, and they are read in
different ways: the record of a task is the first one that is found for it, the list is sorted and
cut off, and the summary counts an empty deployment as none, which the other two show as null.
`read_endpoints_agree` says that they agree on every store that upserts and runs lead to. The single
record needs that a task has no second one.
-/

namespace DeliveryCycle

namespace Ledger

variable {ledger : Ledger} {connection limit : Option Int} {connectionId : Int} {taskId : String}

/-- The records of a task are those that the listing of its connection has of it. -/
theorem filter_listing (single : ledger.SingleRecords) :
    (ledger.listing (some connectionId)).filter (fun record => record.taskId = taskId) =
      ledger.recordsOf (connectionId, taskId) := by
  have perm : ((ledger.listing (some connectionId)).filter
      fun record => record.taskId = taskId).Perm (ledger.recordsOf (connectionId, taskId)) := by
    have narrowed : (ledger.ofConnection (some connectionId)).filter
        (fun record => record.taskId = taskId) = ledger.recordsOf (connectionId, taskId) := by
      rw [ofConnection, List.filter_filter]
      apply List.filter_congr
      intro record _
      simp [CycleRecord.task, Prod.ext_iff, Bool.and_comm]
    exact narrowed ▸ (List.mergeSort_perm _ _).filter _
  rcases single.recordsOf_cases (connectionId, taskId) with none | ⟨record, one⟩
  · rw [none] at perm ⊢
    exact perm.eq_nil
  · rw [one] at perm ⊢
    exact List.perm_singleton.mp perm

/-- The unlimited list is the listing, unless the connection does not fit. -/
theorem list_none : ledger.list connection none =
    if connection.all fitsColumn then .ok (ledger.listing connection)
    else .error .integerTooLarge := by
  cases connection with
  | none => rfl
  | some connectionId =>
      cases fits : fitsColumn connectionId <;>
        simp [list, checkInteger, fits, limited, bind, Except.bind, pure, Except.pure]

theorem list_some {limit : Int} (positive : 0 < limit) (fits : fitsColumn limit = true) :
    ledger.list connection (some limit) =
      (ledger.list connection none).map (·.take limit.toNat) := by
  rw [list_none]
  cases connection with
  | none => simp [list, checkInteger, fits, limited, positive, bind, Except.bind, pure, Except.pure,
      Except.map]
  | some connectionId =>
      cases connectionFits : fitsColumn connectionId <;>
        simp [list, checkInteger, connectionFits, fits, limited, positive, bind, Except.bind, pure,
          Except.pure, Except.map]

theorem find?_eq (fits : fitsColumn connectionId = true) :
    ledger.find? connectionId taskId = .ok (ledger.recordsOf (connectionId, taskId)).head? := by
  simp [find?, checkInteger, fits, recordsOf, List.head?_filter, bind, Except.bind, pure,
    Except.pure]

end Ledger

namespace Api

/-- An object shows a value other than null under a name. -/
def shows (name : String) (object : Json) : Bool :=
  match object.field? name with
  | none | some .null => false
  | some _ => true

/-- An object shows a record of a task. -/
def isAbout (taskId : String) (object : Json) : Bool :=
  match object.field? "task_id" with
  | some (.string text) => text = taskId
  | _ => false

end Api

/-- The name under which a metric is shown. -/
def Metric.name : Metric → String
  | .planning => "planning_time"
  | .coding => "code_time"
  | .deploying => "deploy_time"
  | .total => "total_cycle_time"

theorem MetricStatistics.count_ofValues (values : List Int) :
    (ofValues values).count = values.length := by
  cases values <;> rfl

namespace Api

variable {record : CycleRecord Moment}

theorem shows_deployment_recordJson :
    shows "deployment_id" (recordJson record) = decide (record.deploymentId ≠ "") := by
  have field : (recordJson record).field? "deployment_id" =
      some (.ofText? (some record.deploymentId |>.filter (· ≠ ""))) := rfl
  rw [shows, field]
  by_cases empty : record.deploymentId = "" <;> simp [empty, Json.ofText?, Option.filter]

theorem shows_metric_recordJson (metric : Metric) :
    shows metric.name (recordJson record) = (metric.value record.metrics).isSome := by
  have field : (recordJson record).field? metric.name =
      some (.ofInt? (metric.value record.metrics)) := by cases metric <;> rfl
  rw [shows, field]
  cases metric.value record.metrics <;> rfl

/-- The objects of the unlimited list of one connection, or of all. -/
def listedObjects (ledger : Ledger) (connection : Option Int) : Except StoreError (List Json) :=
  (ledger.list connection none).map (·.map recordJson)

/-- An answer about one task agrees with the objects that are listed for its connection: it is 404
if none is about the task, and else the one object that is. If there is no list, the answer fails in
the same way. -/
structure AnswersTask (listed : Except StoreError (List Json)) (taskId : String)
    (answer : Except HandlerError Response) : Prop where
  refused : ∀ error, listed = .error error → answer = .error (.store error)
  missing : ∀ objects, listed = .ok objects →
    ((∃ response, answer = .ok response ∧ response.status = 404) ↔
      ∀ object ∈ objects, isAbout taskId object = false)
  found : ∀ objects, listed = .ok objects → ∀ object ∈ objects, isAbout taskId object = true →
    answer = .ok (.success object) ∧ objects.filter (isAbout taskId) = [object]

/-- A summary counts the listed objects, those with a deployment and those with each metric. -/
structure CountsObjects (objects : List Json) (summary : Json) : Prop where
  records : summary.field? "records" = some (.int objects.length)
  withDeployment : summary.field? "with_deployment" =
    some (.int (objects.countP (shows "deployment_id")))
  metrics : ∀ metric : Metric, ∃ statistics, summary.field? metric.name = some statistics ∧
    statistics.field? "count" = some (.int (objects.countP (shows metric.name)))

/-- A request names a limit, or the usual one by naming none. -/
def NamesLimit (request : Request) (limit : Int) : Prop :=
  match request.parameter? "limit" with
  | none => limit = usualLimit
  | some text => readInteger ["query", "limit"] text = .ok limit

section Agreement

variable {ledger : Ledger} {request : Request} {connection : Option Int} {connectionId : Int}

theorem listedObjects_eq : listedObjects ledger connection =
    if connection.all fitsColumn then .ok ((ledger.listing connection).map recordJson)
    else .error .integerTooLarge := by
  rw [listedObjects, Ledger.list_none]
  split <;> rfl

theorem readLimit_of_named {limit : Int} (named : NamesLimit request limit) (least : 1 ≤ limit)
    (greatest : limit ≤ 1000) : readLimit request = .ok limit := by
  unfold NamesLimit at named
  unfold readLimit
  cases given : request.parameter? "limit" with
  | none =>
      simp only [given] at named
      exact congrArg Except.ok named.symm
  | some text =>
      simp only [given] at named
      have notBelow : ¬limit < 1 := by omega
      have notAbove : ¬greatestLimit < limit := by
        unfold greatestLimit
        omega
      simp [named, checkLimit, notBelow, notAbove, bind, Except.bind]

/-- The objects that are listed of a task are those of its records. -/
theorem filter_listed (single : ledger.SingleRecords) (taskId : String) :
    ((ledger.listing (some connectionId)).map recordJson).filter (isAbout taskId) =
      (ledger.recordsOf (connectionId, taskId)).map recordJson := by
  rw [List.filter_map, ← Ledger.filter_listing single]
  rfl

theorem showTask_eq {connectionText : String}
    (read : readInteger ["path", "connection_id"] connectionText = .ok connectionId)
    (fits : fitsColumn connectionId = true) (taskId : String) :
    showTask ledger connectionText taskId =
      match (ledger.recordsOf (connectionId, taskId)).head? with
      | none => .ok (noRecord connectionId taskId)
      | some record => .ok (.success (recordJson record)) := by
  unfold showTask
  simp only [read, Ledger.find?_eq fits, Except.mapError, bind, Except.bind]
  cases (ledger.recordsOf (connectionId, taskId)).head? <;> rfl

theorem showTask_of_unfit {connectionText : String}
    (read : readInteger ["path", "connection_id"] connectionText = .ok connectionId)
    (unfit : fitsColumn connectionId = false) (taskId : String) :
    showTask ledger connectionText taskId = .error (.store .integerTooLarge) := by
  simp [showTask, read, Ledger.find?, checkInteger, unfit, Except.mapError, bind, Except.bind]

theorem answersTask_of_none {objects : List Json} {taskId : String} {response : Response}
    (noneListed : objects.filter (isAbout taskId) = []) (status : response.status = 404) :
    AnswersTask (.ok objects) taskId (.ok response) := by
  have noneAbout : ∀ object ∈ objects, isAbout taskId object = false := by
    simpa [List.filter_eq_nil_iff] using noneListed
  constructor
  case refused =>
    intro error same
    contradiction
  case missing =>
    rintro listed ⟨⟩
    exact ⟨fun _ => noneAbout, fun _ => ⟨response, rfl, status⟩⟩
  case found =>
    rintro listed ⟨⟩ object mem about
    rw [noneAbout object mem] at about
    contradiction

theorem answersTask_of_single {objects : List Json} {taskId : String} {object : Json}
    (oneListed : objects.filter (isAbout taskId) = [object]) :
    AnswersTask (.ok objects) taskId (.ok (.success object)) := by
  have own : object ∈ objects.filter (isAbout taskId) := oneListed ▸ List.mem_cons_self
  rcases List.mem_filter.mp own with ⟨mem, about⟩
  constructor
  case refused =>
    intro error same
    contradiction
  case missing =>
    rintro listed ⟨⟩
    constructor
    · rintro ⟨response, ⟨⟩, status⟩
      have shown : (Response.success object).status = 200 := rfl
      rw [shown] at status
      contradiction
    · intro noneAbout
      rw [noneAbout object mem] at about
      contradiction
  case found =>
    rintro listed ⟨⟩ other otherMem otherAbout
    have same : other ∈ objects.filter (isAbout taskId) :=
      List.mem_filter.mpr ⟨otherMem, otherAbout⟩
    rw [oneListed, List.mem_singleton] at same
    subst same
    exact ⟨rfl, oneListed⟩

theorem answersTask_showTask (single : ledger.SingleRecords) {connectionText : String}
    (read : readInteger ["path", "connection_id"] connectionText = .ok connectionId)
    (taskId : String) :
    AnswersTask (listedObjects ledger (some connectionId)) taskId
      (showTask ledger connectionText taskId) := by
  rw [listedObjects_eq, Option.all_some]
  cases fits : fitsColumn connectionId with
  | false =>
      refine ⟨?_, by simp, by simp⟩
      intro error refused
      rw [showTask_of_unfit read fits taskId]
      exact congrArg (Except.error ∘ HandlerError.store) (Except.error.inj refused)
  | true =>
      have listed : ((ledger.listing (some connectionId)).map recordJson).filter (isAbout taskId) =
          (ledger.recordsOf (connectionId, taskId)).map recordJson := filter_listed single taskId
      rw [if_pos rfl, showTask_eq read fits taskId]
      rcases single.recordsOf_cases (connectionId, taskId) with none | ⟨record, one⟩
      · rw [none] at listed ⊢
        exact answersTask_of_none listed rfl
      · rw [one] at listed ⊢
        exact answersTask_of_single listed

theorem listTasks_eq {limit : Int} (connected : readConnection request = .ok connection)
    (named : NamesLimit request limit) (least : 1 ≤ limit) (greatest : limit ≤ 1000) :
    listTasks ledger request =
      ((listedObjects ledger connection).mapError .store).map fun objects =>
        .success (.array (objects.take limit.toNat)) := by
  have fits : fitsColumn limit = true := by
    have : Number.twoPow 63 = 9223372036854775808 := by decide
    simp only [fitsColumn, this, Bool.and_eq_true, decide_eq_true_eq]
    omega
  have positive : 0 < limit := by omega
  unfold listTasks listedObjects
  rw [connected, readLimit_of_named named least greatest]
  simp only [both, Ledger.list_some positive fits]
  cases ledger.list connection none with
  | error error => rfl
  | ok records =>
      simp [Except.mapError, Except.map, bind, Except.bind, pure, Except.pure, List.map_take]

theorem showSummary_eq (connected : readConnection request = .ok connection) :
    showSummary ledger request = ((ledger.list connection none).mapError .store).map fun records =>
      .success (CycleSummary.ofRecords (records.map (·.measured))).toJson := by
  simp only [showSummary, connected]
  cases ledger.list connection none with
  | error error => rfl
  | ok records => rfl

theorem countP_listed (records : Ledger) {name : String} (holds : Measured → Bool)
    (same : ∀ record : CycleRecord Moment, shows name (recordJson record) = holds record.measured) :
    (records.map recordJson).countP (shows name) = (records.map (·.measured)).countP holds := by
  rw [List.countP_map, List.countP_map]
  apply List.countP_congr
  intro record _
  exact iff_of_eq (congrArg (· = true) (same record))

theorem countsObjects_ofRecords (records : Ledger) :
    CountsObjects (records.map recordJson)
      (CycleSummary.ofRecords (records.map (·.measured))).toJson := by
  let summary := CycleSummary.ofRecords (records.map (·.measured))
  constructor
  case records =>
    have counted : summary.records = (records.map recordJson).length := by
      simp [summary, CycleSummary.ofRecords]
    exact congrArg (fun count : Nat => some (Json.int count)) counted
  case withDeployment =>
    have counted : summary.withDeployment =
        (records.map recordJson).countP (shows "deployment_id") := by
      rw [countP_listed records (fun measured => measured.deploymentId ≠ "")
        fun _ => shows_deployment_recordJson]
      exact CycleSummary.withDeployment_ofRecords _
    exact congrArg (fun count : Nat => some (Json.int count)) counted
  case metrics =>
    intro metric
    have field : summary.toJson.field? metric.name =
        some (metric.statistics summary).toJson := by cases metric <;> rfl
    have counted : (metric.statistics summary).count =
        (records.map recordJson).countP (shows metric.name) := by
      rw [countP_listed records (fun measured => (metric.value measured.metrics).isSome)
        fun _ => shows_metric_recordJson metric, metric.statistics_ofRecords,
        MetricStatistics.count_ofValues, Metric.valuesOf, List.length_filterMap_eq_countP]
    exact ⟨_, field, congrArg (fun count : Nat => some (Json.int count)) counted⟩

end Agreement

end Api

/-- The endpoints for records agree on every store that upserts, runs and collectors lead to from a
store without records. The record of a task is shown exactly if the list of its connection has it,
as the object that the list shows and that is the only one of the task there. A list with a limit is
the start of the unlimited one. The summary counts the objects of the list, those with a deployment
and those with each metric. A connection whose identifier is too large for the database is refused
by all three in the same way. -/
theorem read_endpoints_agree {collected : Collected} {store : Store}
    (history : Relation.ReflTransGen Store.Change ⟨collected, []⟩ store) :
    (∀ connectionText connectionId taskId,
      Api.readInteger ["path", "connection_id"] connectionText = .ok connectionId →
        Api.AnswersTask (Api.listedObjects store.ledger (some connectionId)) taskId
          (Api.showTask store.ledger connectionText taskId)) ∧
    (∀ request connection limit, Api.readConnection request = .ok connection →
      Api.NamesLimit request limit → 1 ≤ limit → limit ≤ 1000 →
        Api.listTasks store.ledger request =
          ((Api.listedObjects store.ledger connection).mapError .store).map fun objects =>
            .success (.array (objects.take limit.toNat))) ∧
    ∀ request connection, Api.readConnection request = .ok connection →
      (∀ error, Api.listedObjects store.ledger connection = .error error →
        Api.showSummary store.ledger request = .error (.store error)) ∧
      ∀ objects, Api.listedObjects store.ledger connection = .ok objects →
        ∃ summary, Api.showSummary store.ledger request = .ok (.success summary) ∧
          Api.CountsObjects objects summary := by
  have single := Store.singleRecords_of_history history
  refine ⟨?_, ?_, ?_⟩
  · intro connectionText connectionId taskId read
    exact Api.answersTask_showTask single read taskId
  · intro request connection limit connected named least greatest
    exact Api.listTasks_eq connected named least greatest
  · intro request connection connected
    rw [Api.showSummary_eq connected, Api.listedObjects]
    cases store.ledger.list connection none with
    | error error =>
        refine ⟨?_, by simp [Except.map]⟩
        intro found same
        exact congrArg (Except.error ∘ Api.HandlerError.store) (Except.error.inj same)
    | ok records =>
        refine ⟨by simp [Except.map], ?_⟩
        intro objects same
        rcases Except.ok.inj same with rfl
        exact ⟨_, rfl, Api.countsObjects_ofRecords records⟩

/-- The record that a run leaves for the task of one connection. -/
def twinRecord (connectionId : Int) : CycleRecord Moment :=
  { staleRecord connectionId "T" with
    deploymentId := "", pullRequestCreatedAt := some ⟨60000000⟩ }

theorem cleanLedger_twinStore : Store.cleanLedger ⟨twinStore.collected, []⟩ "project" =
    [twinRecord 1, twinRecord 2] := by
  cbv

/-- The ledger after an upsert that gives the first of these records a deployment. -/
def handedOver : Ledger := [twinRecord 2, taskRecord 1 "D" 2]

theorem history_handedOver :
    Relation.ReflTransGen Store.Change ⟨twinStore.collected, []⟩
      ⟨twinStore.collected, handedOver⟩ := by
  have performed : (twinCleanAttempt.perform ⟨twinStore.collected, []⟩).store =
      ⟨twinStore.collected, [twinRecord 1, twinRecord 2]⟩ := by
    rw [(isClean_twinCleanAttempt.perform _).2, cleanLedger_twinStore]
    rfl
  have upserted : Ledger.transact [twinRecord 1, twinRecord 2] (taskCells 1 (.text "D") 2) =
      handedOver := by
    have accepted : writtenRecord? (taskCells 1 (.text "D") 2) = some (taskRecord 1 "D" 2) := by
      decide
    rw [Ledger.transact_of_written accepted]
    decide
  have ran : Store.Change ⟨twinStore.collected, []⟩
      ⟨twinStore.collected, [twinRecord 1, twinRecord 2]⟩ :=
    performed ▸ .performed _ twinCleanAttempt
  have written : Store.Change ⟨twinStore.collected, [twinRecord 1, twinRecord 2]⟩
      ⟨twinStore.collected, handedOver⟩ :=
    upserted ▸ .upserted _ (taskCells 1 (.text "D") 2)
  exact (Relation.ReflTransGen.single ran).tail written

/-- Two records of one task identifier under two connections, one of them with a deployment. -/
theorem read_endpoints_agree_on_handedOver :
    let request : Api.Request := ⟨"GET", [], [("limit", "1")], ""⟩
    Api.showTask handedOver "1" "T" = .ok (.success (Api.recordJson (taskRecord 1 "D" 2))) ∧
      Api.listTasks handedOver request =
        .ok (.success (.array [Api.recordJson (twinRecord 2)])) ∧
      ∃ summary, Api.showSummary handedOver request = .ok (.success summary) ∧
        summary.field? "records" = some (.int 2) ∧
        summary.field? "with_deployment" = some (.int 1) := by
  intro request
  rcases read_endpoints_agree history_handedOver with ⟨shown, listed, summarized⟩
  have single : Api.listedObjects handedOver (some 1) =
      .ok [Api.recordJson (taskRecord 1 "D" 2)] := by
    have rows : handedOver.listing (some 1) = [taskRecord 1 "D" 2] := by cbv
    rw [Api.listedObjects_eq, rows]
    rfl
  have all : Api.listedObjects handedOver none = .ok (handedOver.map Api.recordJson) := by
    have rows : handedOver.listing none = handedOver := by cbv
    rw [Api.listedObjects_eq, rows]
    rfl
  have read : Api.readInteger ["path", "connection_id"] "1" = .ok 1 := by decide
  have named : Api.NamesLimit request 1 := by
    show Api.readInteger ["query", "limit"] "1" = .ok 1
    decide
  have unnamed : Api.readConnection request = .ok none := rfl
  refine ⟨?_, ?_, ?_⟩
  · exact ((shown "1" 1 "T" read).found _ single _ List.mem_cons_self rfl).1
  · rw [listed request none 1 unnamed named (by decide) (by decide), all]
    rfl
  · rcases (summarized request none unnamed).2 _ all with ⟨summary, answered, counts⟩
    exact ⟨summary, answered, counts.records, counts.withDeployment⟩

end DeliveryCycle
