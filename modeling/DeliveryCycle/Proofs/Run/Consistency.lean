import DeliveryCycle.Job.Call
import DeliveryCycle.Proofs.Record.Acceptance
import DeliveryCycle.Proofs.Run.Convergence
import DeliveryCycle.Proofs.Store.Edited

/-!
# Records that agree with themselves

A record keeps milestones and metrics side by side, and a record that is written again may replace
an older one in place. Nothing of the older one is left: in every store that can be reached, the
metrics of a record are those of its own milestones, and it names a deployment if and only if it
has the time of one.

`Store.IsConsistent` is the invariant. It also says that the collected deployments have names,
because a record of a deployment without a name could not be told from one without a deployment.
Every step of `Store.Step` keeps it, so a history of any length does.
-/

namespace DeliveryCycle

namespace Moment

/-- A span is measured if both of its ends are there. -/
theorem span_isSome_iff {start finish : Option Moment} :
    (span start finish).isSome ↔ start.isSome ∧ finish.isSome := by
  cases start <;> cases finish <;> simp [span]

end Moment

/-- A record whose metrics are those of its own milestones, and which names a deployment if and only
if it has the time of one. The other fields say what follows for each of the metrics. -/
structure CycleRecord.IsConsistent (record : CycleRecord Moment) : Prop where
  measured : record.milestones.measure = .ok record.metrics
  named : record.deploymentId = "" ↔ record.deployedAt = none
  total : record.deployedAt = none ↔ record.metrics.total = none
  planning : record.metrics.planning = none ↔ record.firstCommitAt = none
  coding : record.metrics.coding.isSome ↔
    record.firstCommitAt.isSome ∧ record.pullRequestMergedAt.isSome
  deploying : record.metrics.deploying.isSome ↔
    record.pullRequestMergedAt.isSome ∧ record.deployedAt.isSome

theorem CycleRecord.isConsistent_of_metrics {record : CycleRecord Moment}
    (metrics : record.metrics = record.milestones.metrics)
    (named : record.deploymentId = "" ↔ record.deployedAt = none) : record.IsConsistent := by
  constructor
  · rw [metrics, Milestones.measure_moment]
  · exact named
  · rw [metrics]
    unfold Milestones.metrics milestones
    cases record.deployedAt <;> simp [Moment.span]
  · rw [metrics]
    unfold Milestones.metrics milestones
    cases record.firstCommitAt <;> simp [Moment.span]
  · rw [metrics]
    exact Moment.span_isSome_iff
  · rw [metrics]
    exact Moment.span_isSome_iff

/-- No collected deployment is without a name. -/
def Collected.NamesDeployments (collected : Collected) : Prop :=
  ∀ deployment ∈ collected.deployments, deployment.id ≠ ""

/-- The record of a resolved work item is consistent. -/
theorem Collected.NamesDeployments.isConsistent {collected : Collected} {project : String}
    {item : WorkItem} {correlation : Correlation Moment} (names : collected.NamesDeployments)
    (resolved : (resolve .usual collected project item).correlation = some correlation) :
    correlation.momentRecord.IsConsistent := by
  apply CycleRecord.isConsistent_of_metrics rfl
  rw [Collected.resolve_correlation] at resolved
  rcases Option.map_eq_some_iff.mp resolved with ⟨⟨name, pullRequest⟩, _, rfl⟩
  show ((matchDeployment deploymentStrategies collected pullRequest.mergeCommit).map
      (·.deploymentId)).getD "" = "" ↔
    (matchDeployment deploymentStrategies collected pullRequest.mergeCommit).map
      (·.finishedAt) = none
  cases matched : matchDeployment deploymentStrategies collected pullRequest.mergeCommit with
  | none => simp
  | some deployment =>
      rcases Collected.exists_of_matchDeployment matched with ⟨row, mem, same, _⟩
      have nonempty : deployment.deploymentId ≠ "" := same ▸ names row mem
      simp [nonempty]

/-- A pass changes nothing, or it does what a pass over the items of some connection does. -/
theorem Collected.collected_of_enrich {collected : Collected} {connection : Json}
    {enrichment : Enrichment} (enriched : collected.enrich connection = .ok enrichment) :
    enrichment.collected = collected ∨
      ∃ connectionId, enrichment.collected = collected.enriched connectionId := by
  unfold enrich at enriched
  cases compared : comparedInteger connection with
  | error error => simp [compared, bind, Except.bind] at enriched
  | ok wanted =>
      simp only [compared, bind, Except.bind, pure, Except.pure] at enriched
      cases wanted with
      | none => exact .inl (Except.ok.inj enriched ▸ rfl)
      | some connectionId => exact .inr ⟨connectionId, Except.ok.inj enriched ▸ rfl⟩

/-- Every collected deployment has a name, and every record agrees with itself. -/
structure Store.IsConsistent (store : Store) : Prop where
  named : store.collected.NamesDeployments
  records : ∀ record ∈ store.ledger, record.IsConsistent

namespace RunPlan

variable {plan : RunPlan} {ledger : Ledger} {item : WorkItem} {items : List WorkItem}
variable {record : CycleRecord Moment}

/-- After a candidate a record is an old one or the fresh one of the candidate. -/
theorem mem_write (mem : record ∈ plan.write ledger item) :
    plan.freshRecord? item = some record ∨ record ∈ ledger := by
  unfold write at mem
  split at mem
  · rename_i fresh written
    rcases Ledger.mem_insertOrReplace mem with rfl | kept
    · exact .inl written
    · exact .inr (List.mem_of_mem_filter kept)
  · exact .inr mem

theorem mem_foldl_write (mem : record ∈ items.foldl plan.write ledger) :
    (∃ item ∈ items, plan.freshRecord? item = some record) ∨ record ∈ ledger := by
  induction items generalizing ledger with
  | nil => exact .inr mem
  | cons item rest ih =>
      rcases ih mem with ⟨later, laterMem, fresh⟩ | written
      · exact .inl ⟨later, List.mem_cons_of_mem _ laterMem, fresh⟩
      · rcases mem_write written with fresh | old
        · exact .inl ⟨item, List.mem_cons_self, fresh⟩
        · exact .inr old

end RunPlan

namespace Store.IsConsistent

variable {store : Store}

/-- Collectors may put in, change and take away rows as they like. -/
theorem collect (consistent : store.IsConsistent) {collected : Collected}
    (names : collected.NamesDeployments) :
    Store.IsConsistent { store with collected := collected } :=
  ⟨names, consistent.records⟩

/-- A committed run keeps a store consistent, whatever goes wrong in it. -/
theorem commitRun (consistent : store.IsConsistent) (environment : Environment)
    (request : RunRequest) (options : RunOptions) :
    (DeliveryCycle.commitRun environment store request options).store.IsConsistent := by
  rcases commitRun_store_cases environment store request options with
    unchanged | ⟨summary, returned, committed⟩
  · rw [unchanged]
    exact consistent
  · rw [committed, (RunPlan.run_effect returned).1]
    refine ⟨consistent.named, ?_⟩
    intro record mem
    rcases RunPlan.mem_foldl_write mem with ⟨item, _, fresh⟩ | old
    · rcases RunPlan.freshRecord?_eq_some_iff.mp fresh with ⟨_, correlation, resolved, rfl⟩
      exact consistent.named.isConsistent resolved
    · exact consistent.records record old

theorem perform (consistent : store.IsConsistent) (attempt : Attempt) :
    (attempt.perform store).store.IsConsistent := by
  rw [Attempt.perform_store, ← calculateAndCommit_store]
  unfold calculateAndCommit
  cases RunOptions.ofName attempt.request.projectName with
  | error issue => exact consistent
  | ok options => exact consistent.commitRun attempt.environment attempt.request options

/-- A pass over the work items of a connection touches neither the deployments nor the records. -/
theorem enrichWorkItems (consistent : store.IsConsistent) (connection : Json) :
    (Job.enrichWorkItems store connection).store.IsConsistent := by
  unfold Job.enrichWorkItems
  cases enriched : store.collected.enrich connection with
  | error error => exact consistent
  | ok enrichment =>
      apply consistent.collect
      rcases Collected.collected_of_enrich enriched with unchanged | ⟨connectionId, changed⟩
      · rw [unchanged]
        exact consistent.named
      · rw [changed]
        exact consistent.named

theorem calculateCycleTime (consistent : store.IsConsistent) (surroundings : Job.Surroundings)
    (project : Json) :
    (Job.calculateCycleTime surroundings store project).store.IsConsistent := by
  unfold Job.calculateCycleTime
  cases RunOptions.ofJson (.object [(projectField, project)]) with
  | error issue => exact consistent
  | ok options =>
      have kept := consistent.commitRun surroundings.environment
        ⟨options.project, none, surroundings.faults, surroundings.signals⟩ options
      dsimp only
      split
      · exact kept
      · exact kept

/-- What both stages of a job keep, the job keeps. -/
theorem andThen {Value Next : Type} {job : Job.JobResult Value}
    {next : Value → Store → Job.JobResult Next} (first : job.store.IsConsistent)
    (second : ∀ value, (next value job.store).store.IsConsistent) :
    (job.andThen next).store.IsConsistent := by
  unfold Job.JobResult.andThen
  split
  · exact first
  · exact second _

theorem enrichConnections (consistent : store.IsConsistent) (counts : List (String × Nat))
    (connections : List Json) :
    (Job.enrichConnections store counts connections).store.IsConsistent := by
  induction connections generalizing store counts with
  | nil => exact consistent
  | cons connection rest ih =>
      apply andThen (consistent.enrichWorkItems connection)
      intro count
      exact ih (consistent.enrichWorkItems connection) _

theorem printing (consistent : store.IsConsistent) (lines : List String) :
    (Job.printing lines () store).store.IsConsistent :=
  consistent

theorem runPipeline (consistent : store.IsConsistent) (surroundings : Job.Surroundings)
    (project connections : Json) :
    (Job.runPipeline surroundings store project connections).store.IsConsistent := by
  have enriched : (Job.enrichListed store connections).store.IsConsistent := by
    unfold Job.enrichListed
    split
    · exact consistent.enrichConnections [] _
    · exact consistent
  unfold Job.runPipeline
  apply andThen (consistent.printing _)
  intro _
  apply andThen enriched
  intro counts
  apply andThen (enriched.printing _)
  intro _
  apply andThen (enriched.calculateCycleTime surroundings project)
  intro summary
  exact enriched.calculateCycleTime surroundings project

theorem call (consistent : store.IsConsistent) (surroundings : Job.Surroundings)
    (call : Job.Call) : (call.run surroundings store).store.IsConsistent := by
  cases call with
  | enrich connection => exact consistent.enrichWorkItems connection
  | calculate project => exact consistent.calculateCycleTime surroundings project
  | pipeline project connections =>
      exact consistent.runPipeline surroundings project connections

end Store.IsConsistent

namespace Store

/-- What may happen to a store: collectors change the rows that they brought in, an attempt to run a
project ends, or a job does. -/
inductive Step : Store → Store → Prop
  | collected {store : Store} {collected : Collected} (names : collected.NamesDeployments) :
      Step store { store with collected := collected }
  | performed (store : Store) (attempt : Attempt) : Step store (attempt.perform store).store
  | worked (store : Store) (surroundings : Job.Surroundings) (call : Job.Call) :
      Step store (call.run surroundings store).store

/-- An edit of any table but the one of the records is a change by collectors. -/
theorem step_of_edit {store edited : Store} {tableName : String} {edit : Edit} {count : Nat}
    (upstream : tableName ≠ Schema.cycleRecords.name)
    (accepted : store.edit tableName edit = .ok (edited, count))
    (names : edited.collected.NamesDeployments) : Step store edited := by
  have sameLedger := ledger_of_edit upstream accepted
  rcases edited with ⟨collected, ledger⟩
  simp only at sameLedger names
  rw [sameLedger]
  exact .collected names

theorem IsConsistent.step {store after : Store} (consistent : store.IsConsistent)
    (step : Step store after) : after.IsConsistent := by
  cases step with
  | collected names => exact consistent.collect names
  | performed attempt => exact consistent.perform attempt
  | worked surroundings call => exact consistent.call surroundings call

theorem IsConsistent.history {store after : Store} (consistent : store.IsConsistent)
    (history : Relation.ReflTransGen Step store after) : after.IsConsistent := by
  induction history with
  | refl => exact consistent
  | tail _ last ih => exact ih.step last

end Store

/-- However the collected rows change from time to time, and whatever attempts and jobs are started
in between: if there was no record at the beginning and no deployment is ever without a name, every
record agrees with itself. -/
theorem records_agree_with_themselves {collected : Collected} {store : Store}
    (names : collected.NamesDeployments)
    (history : Relation.ReflTransGen Store.Step ⟨collected, []⟩ store) :
    ∀ record ∈ store.ledger, record.IsConsistent := by
  have initial : Store.IsConsistent ⟨collected, []⟩ := by
    refine ⟨names, ?_⟩
    intro record mem
    contradiction
  exact (initial.history history).records

/-- The rows of the store with a task under two connections after its pull request was merged. -/
def mergedRows : Collected :=
  { twinStore.collected with
    pullRequests :=
      [⟨"pull", "repository", 1, "change", "branch", ⟨60000000⟩, some ⟨120000000⟩, none⟩] }

/-- The pull request is merged between two clean runs. The second one writes both records of the
first one again, in place, and they still agree with themselves. -/
theorem mergedRows_records_agree :
    ∃ store, Relation.ReflTransGen Store.Step ⟨twinStore.collected, []⟩ store ∧
      store.ledger.map (·.pullRequestMergedAt) = [some ⟨120000000⟩, some ⟨120000000⟩] ∧
        ∀ record ∈ store.ledger, record.IsConsistent := by
  let ledger := Store.cleanLedger ⟨twinStore.collected, []⟩ "project"
  have ran : Store.Step ⟨twinStore.collected, []⟩ ⟨twinStore.collected, ledger⟩ := by
    have performed : (twinCleanAttempt.perform ⟨twinStore.collected, []⟩).store =
        ⟨twinStore.collected, ledger⟩ := (isClean_twinCleanAttempt.perform _).2
    rw [← performed]
    exact .performed _ twinCleanAttempt
  have edited : Store.edit ⟨twinStore.collected, ledger⟩ Schema.pullRequests.name
      (.update [] [("merged_date", .moment ⟨120000000⟩)]) = .ok (⟨mergedRows, ledger⟩, 1) := rfl
  have merged : Store.Step ⟨twinStore.collected, ledger⟩ ⟨mergedRows, ledger⟩ :=
    Store.step_of_edit (by decide) edited (by simp [mergedRows, twinStore, Collected.empty,
      Collected.NamesDeployments])
  have again := Store.Step.performed ⟨mergedRows, ledger⟩ twinCleanAttempt
  have history := ((Relation.ReflTransGen.single ran).tail merged).tail again
  have names : twinStore.collected.NamesDeployments := by
    simp [twinStore, Collected.empty, Collected.NamesDeployments]
  have rewritten : (Store.cleanLedger ⟨mergedRows, Store.cleanLedger ⟨twinStore.collected, []⟩
      "project"⟩ "project").map (·.pullRequestMergedAt) =
        [some ⟨120000000⟩, some ⟨120000000⟩] := by cbv
  refine ⟨_, history, ?_, records_agree_with_themselves names history⟩
  rw [(isClean_twinCleanAttempt.perform ⟨mergedRows, ledger⟩).2]
  exact rewritten

end DeliveryCycle
