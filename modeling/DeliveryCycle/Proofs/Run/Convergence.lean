import DeliveryCycle.Proofs.Run.Calculation

/-!
# Runs that are repeated

A run of a project may be cancelled, may be hit by faults or may break down, and it may be repeated
any number of times. Whatever such attempts did, one clean run repairs it: it leaves the records
that a single clean run would have left at the beginning, and a further clean run changes nothing.

The invariant of a history of attempts is `Store.Between`: every task has the records that it had at
the beginning or the one that a clean run writes. Every attempt keeps it, and a clean run moves
every task with such a record to it.
-/

namespace DeliveryCycle

/-- An attempt to run a project, with what happens during it. -/
structure Attempt where
  environment : Environment
  request : RunRequest
  /-- What was done is also kept if the caller is cancelled. -/
  keepsOnCancel : Bool

namespace Attempt

/-- The end of an attempt that starts in a store. -/
def perform (attempt : Attempt) (store : Store) : CommittedRun :=
  if attempt.keepsOnCancel then calculateAndCommit attempt.environment store attempt.request
  else calculate attempt.environment store attempt.request

/-- The store after a history of attempts. -/
def storeAfter (attempts : List Attempt) (store : Store) : Store :=
  attempts.foldl (fun current attempt => (attempt.perform current).store) store

/-- An attempt never runs another project than the given one. -/
def IsFor (attempt : Attempt) (project : String) : Prop :=
  ∀ options, RunOptions.ofName attempt.request.projectName = .ok options →
    options.project = project

/-- An attempt to run a project that nothing disturbs. -/
structure IsClean (attempt : Attempt) (project : String) : Prop where
  accepted : RunOptions.ofName attempt.request.projectName = .ok ⟨project⟩
  usable : UsableBatch attempt.environment attempt.request.batchSize
  faults : attempt.request.faults = .none
  signals : attempt.request.signals = .none

variable {attempt : Attempt} {store : Store} {project : String}

theorem perform_store : (attempt.perform store).store =
    (calculate attempt.environment store attempt.request).store := by
  unfold perform
  split
  · exact calculateAndCommit_store
  · rfl

end Attempt

namespace Store

/-- The record that a clean run of a project leaves for a task, if any. -/
def cleanRecord? (store : Store) (project : String) (task : Int × String) :
    Option (CycleRecord Moment) :=
  (RunPlan.clean store.collected project).recordLeft? (store.collected.candidates project) task

/-- The ledger that a clean run of a project leaves. -/
def cleanLedger (store : Store) (project : String) : Ledger :=
  (store.collected.candidates project).foldl (RunPlan.clean store.collected project).write
    store.ledger

/-- The summary of a clean run of a project. -/
def cleanSummary (store : Store) (project : String) : RunSummary :=
  (RunSummary.start project).tally
    ((store.collected.candidates project).map (RunPlan.clean store.collected project).outcomeOf)

/-- A store that lies between another one and what a clean run of a project makes of it. -/
structure Between (project : String) (initial current : Store) : Prop where
  collected : current.collected = initial.collected
  wellKeyed : current.WellKeyed
  records : ∀ task, current.ledger.recordsOf task = initial.ledger.recordsOf task ∨
    ∃ record, initial.cleanRecord? project task = some record ∧
      current.ledger.recordsOf task = [record]

variable {initial current : Store} {project : String} {attempt : Attempt}

theorem Between.refl (wellKeyed : initial.WellKeyed) : Between project initial initial :=
  ⟨rfl, wellKeyed, fun _ => .inl rfl⟩

theorem WellKeyed.nodup_candidates_key {store : Store} (wellKeyed : store.WellKeyed)
    (project : String) : ((store.collected.candidates project).map (·.key)).Nodup :=
  Collected.nodup_candidates_key wellKeyed.workItems

/-- What a run writes for a task, a clean run of its project writes as well. -/
theorem cleanRecord?_of_recordLeft? {store : Store} {request : RunRequest} {options : RunOptions}
    {environment : Environment} {task : Int × String} {record : CycleRecord Moment}
    (wellKeyed : store.WellKeyed)
    (left : (request.plan store options).recordLeft?
      ((request.plan store options).consumed environment request.batchSize) task = some record) :
    store.cleanRecord? options.project task = some record := by
  have nodup : (((request.plan store options).collected.candidates
      (request.plan store options).project).map (·.key)).Nodup :=
    wellKeyed.nodup_candidates_key options.project
  have started : (request.plan store options).consumed environment request.batchSize <+:
      (request.plan store options).collected.candidates (request.plan store options).project :=
    RunPlan.consumed_prefix_candidates
  -- Only this statement fixes the plan; the goal alone would leave it open.
  have written := RunPlan.recordLeft?_clean nodup started left
  exact written

theorem cleanRecord?_congr (sameRows : current.collected = initial.collected) (project : String)
    (task : Int × String) :
    current.cleanRecord? project task = initial.cleanRecord? project task := by
  simp only [cleanRecord?, sameRows]

theorem recordsOf_cleanLedger {store : Store} (wellKeyed : store.WellKeyed) (project : String)
    (task : Int × String) :
    Ledger.recordsOf (store.cleanLedger project) task =
      match store.cleanRecord? project task with
      | some record => [record]
      | none => store.ledger.recordsOf task :=
  RunPlan.recordsOf_foldl_write wellKeyed.ledger (wellKeyed.nodup_candidates_key project) task

/-- A clean run leaves the same rows from every store between the beginning and its own end. -/
theorem Between.cleanLedger_perm (between : Between project initial current)
    (wellKeyed : initial.WellKeyed) :
    (current.cleanLedger project).Perm (initial.cleanLedger project) := by
  apply Ledger.perm_of_recordsOf_eq
  intro task
  rw [recordsOf_cleanLedger between.wellKeyed, recordsOf_cleanLedger wellKeyed,
    cleanRecord?_congr between.collected]
  cases written : initial.cleanRecord? project task with
  | some record => rfl
  | none =>
      rcases between.records task with unchanged | ⟨record, clean, _⟩
      · exact unchanged
      · exact absurd (written.symm.trans clean) (by simp)

/-- A clean run changes nothing about what a clean run left. -/
theorem cleanLedger_cleanLedger {store : Store} (wellKeyed : store.WellKeyed) (project : String) :
    (store.withLedger (store.cleanLedger project)).cleanLedger project =
      store.cleanLedger project := by
  apply RunPlan.foldl_write_eq_self (RunPlan.wellKeyed_foldl_write wellKeyed.ledger)
  intro item mem record fresh
  have written : store.cleanRecord? project item.key = some record :=
    (RunPlan.recordLeft?_eq_some_iff (wellKeyed.nodup_candidates_key project)).mpr
      ⟨item, mem, rfl, fresh⟩
  have view := recordsOf_cleanLedger wellKeyed project item.key
  rw [written] at view
  exact view

theorem cleanSummary_congr (sameRows : current.collected = initial.collected) (project : String) :
    current.cleanSummary project = initial.cleanSummary project := by
  simp only [cleanSummary, sameRows]

/-- After an attempt to run a project a task has the records that it had, or the one that a clean
run writes. -/
theorem recordsOf_perform {store : Store} (wellKeyed : store.WellKeyed)
    (isFor : attempt.IsFor project) (task : Int × String) :
    (attempt.perform store).store.ledger.recordsOf task = store.ledger.recordsOf task ∨
      ∃ record, store.cleanRecord? project task = some record ∧
        (attempt.perform store).store.ledger.recordsOf task = [record] := by
  rw [Attempt.perform_store]
  cases ended : (calculate attempt.environment store attempt.request).result with
  | error error =>
      left
      rw [calculate_store_of_failed ended]
  | ok summary =>
      rcases accepted_of_returned ended with ⟨options, accepted⟩
      rw [recordsOf_calculate wellKeyed accepted ended]
      split
      · rename_i record written
        right
        refine ⟨record, ?_, rfl⟩
        rw [← isFor options accepted]
        exact cleanRecord?_of_recordLeft? wellKeyed written
      · left
        rfl

/-- An attempt keeps a store between another one and what a clean run makes of it. -/
theorem Between.perform (between : Between project initial current)
    (isFor : attempt.IsFor project) : Between project initial (attempt.perform current).store where
  collected := by
    rw [Attempt.perform_store, calculate_collected]
    exact between.collected
  wellKeyed := by
    rw [Attempt.perform_store]
    exact between.wellKeyed.calculate
  records := by
    intro task
    rcases recordsOf_perform between.wellKeyed isFor task with unchanged | ⟨record, written, only⟩
    · rw [unchanged]
      exact between.records task
    · right
      refine ⟨record, ?_, only⟩
      rw [← cleanRecord?_congr between.collected]
      exact written

/-- A history of attempts to run a project keeps it. -/
theorem Between.storeAfter {attempts : List Attempt} (between : Between project initial current)
    (areFor : ∀ attempt ∈ attempts, attempt.IsFor project) :
    Between project initial (Attempt.storeAfter attempts current) := by
  induction attempts generalizing current with
  | nil => exact between
  | cons attempt rest ih =>
      exact ih (between.perform (areFor attempt List.mem_cons_self))
        fun other otherMem => areFor other (List.mem_cons_of_mem _ otherMem)

end Store

namespace RunPlan

variable {collected : Collected} {project : String} {ledger : Ledger} {items : List WorkItem}

theorem stopsWith_clean (number : Nat) (item : WorkItem) :
    (clean collected project).signals.stopsWith number item = false := rfl

theorem startedFrom_clean :
    (clean collected project).startedFrom (.start (clean collected project) ledger) items =
      items := by
  have all : (clean collected project).signals.limit false 0 items = items.length :=
    Signals.limit_of_never stopsWith_clean
  unfold startedFrom
  rw [show (RunState.start (clean collected project) ledger).stopping = false from rfl,
    show (RunState.start (clean collected project) ledger).reports = 0 from rfl, all]
  exact List.take_length

theorem walked_clean (collected : Collected) (project : String) (ledger : Ledger)
    (items : List WorkItem) :
    let last := (clean collected project).walked (.start (clean collected project) ledger) items
    last.summary =
        (RunSummary.start project).tally (items.map (clean collected project).outcomeOf) ∧
      last.ledger = items.foldl (clean collected project).write ledger ∧ last.stopping = false := by
  refine ⟨?_, ?_, ?_⟩
  · have finished := RunSummary.tally_cancelled (RunSummary.start project)
      (items.map (clean collected project).outcomeOf)
    rw [walked_summary rfl, startedFrom_clean]
    simp only [Nat.lt_irrefl, decide_false]
    exact congrArg (fun cancelled => { (RunSummary.start project).tally
      (items.map (clean collected project).outcomeOf) with cancelled := cancelled }) finished.symm
  · rw [walked_ledger, startedFrom_clean]
    rfl
  · rw [walked_stopping, foldl_processed_stopping stopsWith_clean]
    rfl

end RunPlan

namespace Attempt

variable {attempt : Attempt} {store : Store} {project : String}

theorem IsClean.isFor (clean : attempt.IsClean project) : attempt.IsFor project := by
  intro options accepted
  have same := accepted.symm.trans clean.accepted
  simp only [Except.ok.injEq] at same
  rw [same]

/-- A clean attempt returns its summary and leaves its ledger. -/
theorem IsClean.perform (clean : attempt.IsClean project) (store : Store) :
    (attempt.perform store).result = .ok (store.cleanSummary project) ∧
      (attempt.perform store).store = store.withLedger (store.cleanLedger project) := by
  have plan : attempt.request.plan store ⟨project⟩ =
      RunPlan.clean store.collected project := by
    simp [RunRequest.plan, RunPlan.clean, clean.faults, clean.signals]
  have opened : attempt.request.faults.cursor = none := by rw [clean.faults]; rfl
  have steady : (attempt.request.plan store ⟨project⟩).Steady := by
    rw [plan]
    exact ⟨fun _ => rfl, fun _ => rfl⟩
  have plain := calculate_of_usable clean.accepted clean.usable opened steady
  have committing := calculateAndCommit_of_usable clean.accepted clean.usable opened steady
  rw [plan] at plain committing
  rcases RunPlan.walked_clean store.collected project store.ledger
    (store.collected.candidates project) with ⟨summary, ledger, running⟩
  rcases plain with ⟨returned, committed, _⟩
  constructor
  · unfold Attempt.perform
    split
    · rw [committing, running, summary]
      rfl
    · rw [returned, summary]
      rfl
  · rw [perform_store, committed, ledger]
    rfl

end Attempt

/-- Whatever attempts to run a project did, a clean one repairs it: it leaves the rows that a single
clean run would have left at the beginning, and returns the summary of that run. A further clean run
returns this summary again and changes nothing. -/
theorem converges_of_clean {store : Store} {project : String} {attempts : List Attempt}
    {single last further : Attempt} (wellKeyed : store.WellKeyed)
    (areFor : ∀ attempt ∈ attempts, attempt.IsFor project) (singleClean : single.IsClean project)
    (lastClean : last.IsClean project) (furtherClean : further.IsClean project) :
    let alone := single.perform store
    let repaired := last.perform (Attempt.storeAfter attempts store)
    let again := further.perform repaired.store
    (∃ summary, alone.result = .ok summary ∧ repaired.result = .ok summary ∧
        again.result = .ok summary) ∧
      repaired.store.collected = alone.store.collected ∧
      repaired.store.ledger.Perm alone.store.ledger ∧ again.store = repaired.store := by
  intro alone repaired again
  have between : Store.Between project store (Attempt.storeAfter attempts store) :=
    (Store.Between.refl wellKeyed).storeAfter areFor
  rcases singleClean.perform store with ⟨aloneReturned, aloneStore⟩
  rcases lastClean.perform (Attempt.storeAfter attempts store) with ⟨repairReturned, repairStore⟩
  rcases furtherClean.perform repaired.store with ⟨againReturned, againStore⟩
  have repairedRows : repaired.store.collected = store.collected := by
    rw [repairStore]
    exact between.collected
  refine ⟨⟨store.cleanSummary project, aloneReturned, ?_, ?_⟩, ?_, ?_, ?_⟩
  · rw [repairReturned, Store.cleanSummary_congr between.collected]
  · rw [againReturned, Store.cleanSummary_congr repairedRows]
  · rw [repairedRows, aloneStore]
    rfl
  · rw [repairStore, aloneStore]
    exact between.cleanLedger_perm wellKeyed
  · rw [againStore, repairStore, Store.cleanLedger_cleanLedger between.wellKeyed]
    rfl

/-- Three attempts on the store with a task under two connections: on one task the storage fails, on
the other one the program breaks down, and the caller of the last attempt is cancelled. -/
def twinAttempts : List Attempt :=
  [⟨[], twinRequest, false⟩,
    ⟨[], { twinRequest with
      faults := { Faults.none with
        breakdown := fun task => if task = (2, "T") then some ⟨"lost"⟩ else none } }, false⟩,
    ⟨[], { twinRequest with
      signals := { Signals.none with stopDuring := fun task => task.2 = "T" } }, true⟩]

/-- An attempt to run the project of this store that nothing disturbs. -/
def twinCleanAttempt : Attempt := ⟨[], { twinRequest with faults := .none }, false⟩

theorem isClean_twinCleanAttempt : twinCleanAttempt.IsClean "project" :=
  ⟨by decide, ⟨1, rfl, by decide, by decide⟩, rfl, rfl⟩

/-- A clean attempt repairs what the three attempts left. -/
theorem converges_of_twinAttempts :
    ((twinCleanAttempt.perform (Attempt.storeAfter twinAttempts twinStore)).store.ledger).Perm
        (twinCleanAttempt.perform twinStore).store.ledger ∧
      ∃ summary, (twinCleanAttempt.perform twinStore).result = .ok summary := by
  have accepted : RunOptions.ofName twinRequest.projectName = .ok ⟨"project"⟩ := by decide
  have clean : twinCleanAttempt.IsClean "project" :=
    ⟨accepted, ⟨1, rfl, by decide, by decide⟩, rfl, rfl⟩
  have areFor : ∀ attempt ∈ twinAttempts, attempt.IsFor "project" := by
    intro attempt mem options given
    have name : attempt.request.projectName = twinRequest.projectName := by
      simp only [twinAttempts, List.mem_cons, List.not_mem_nil, or_false] at mem
      rcases mem with rfl | rfl | rfl <;> rfl
    have same := (name ▸ given).symm.trans accepted
    simp only [Except.ok.injEq] at same
    rw [same]
  rcases converges_of_clean wellKeyed_twinStore areFor clean clean clean with
    ⟨⟨summary, returned, _⟩, _, repaired, _⟩
  exact ⟨repaired, summary, returned⟩

end DeliveryCycle
