import DeliveryCycle.Job.Pipeline
import DeliveryCycle.Proofs.Run.LinkedBranch

/-!
# The stages of the pipeline

The first stage of the pipeline makes a pass over each of several connections. Passes commute, and a
second pass over a connection changes nothing, so that all of them together are one change of the
branches: `foldl_enriched`. The second stage is a run, and a run does not look at branches. So the
pipeline calculates what the calculation alone would have calculated.
-/

namespace DeliveryCycle

namespace Collected

variable {collected : Collected} {connectionId : Int} {item : WorkItem} {branch : WorkItem → String}

/-- The branch of a work item after passes over some connections. -/
def branchOver (collected : Collected) (connections : List Int) (item : WorkItem) : String :=
  if item.connectionId ∈ connections then collected.branchAfter item else item.linkedBranch

theorem branchOver_congr {connections others : List Int}
    (same : ∀ connection, connection ∈ others ↔ connection ∈ connections) :
    collected.branchOver others = collected.branchOver connections := by
  funext item
  simp only [branchOver, same]

/-- A second pass over the connection of a work item finds the same branch. -/
theorem branchAfter_withBranch :
    collected.branchAfter (item.withBranch (collected.branchAfter item)) =
      collected.branchAfter item := by
  have sameLink : (item.withBranch (collected.branchAfter item)).hasLink = item.hasLink := rfl
  have sameBranch : collected.linkedBranch? (item.withBranch (collected.branchAfter item)) =
      collected.linkedBranch? item := rfl
  unfold branchAfter at sameLink sameBranch ⊢
  rw [sameLink, sameBranch]
  cases item.hasLink with
  | false => rfl
  | true => cases collected.linkedBranch? item <;> rfl

theorem rebranch_linkedBranch : collected.rebranch (·.linkedBranch) = collected := by
  simp only [rebranch, WorkItem.withBranch_linkedBranch, List.map_id']

theorem enrichedItem_withBranch (branch : String) :
    (collected.enrichedItem connectionId item).withBranch branch = item.withBranch branch := by
  rw [enrichedItem_eq]
  split <;> rfl

theorem branchOver_enrichedItem (connections : List Int) :
    (collected.enriched connectionId).branchOver connections
        (collected.enrichedItem connectionId item) =
      collected.branchOver (connectionId :: connections) item := by
  -- A pass changes none of the rows in which branches are looked up.
  have sameRows : (collected.enriched connectionId).branchAfter = collected.branchAfter := rfl
  unfold branchOver
  rw [sameRows, enrichedItem_eq]
  by_cases own : item.connectionId = connectionId
  · have again : collected.branchAfter (item.withBranch (collected.branchAfter item)) =
        collected.branchAfter item := branchAfter_withBranch
    have listed : item.connectionId ∈ connectionId :: connections := by simp [own]
    rw [if_pos own, again, if_pos listed]
    exact ite_self _
  · simp [own]

theorem enriched_rebranch (connections : List Int) :
    (collected.enriched connectionId).rebranch
        ((collected.enriched connectionId).branchOver connections) =
      collected.rebranch (collected.branchOver (connectionId :: connections)) := by
  have sameItems : (collected.enriched connectionId).workItems.map (fun item =>
        item.withBranch ((collected.enriched connectionId).branchOver connections item)) =
      collected.workItems.map fun item =>
        item.withBranch (collected.branchOver (connectionId :: connections) item) := by
    rw [enriched, List.map_map]
    apply List.map_congr_left
    intro item _
    rw [Function.comp_apply, enrichedItem_withBranch]
    exact congrArg item.withBranch (branchOver_enrichedItem connections)
  unfold rebranch
  rw [sameItems]
  rfl

/-- Passes over several connections are one change of the branches. -/
theorem foldl_enriched (connections : List Int) :
    connections.foldl enriched collected =
      collected.rebranch (collected.branchOver connections) := by
  induction connections generalizing collected with
  | nil => exact rebranch_linkedBranch.symm
  | cons connectionId rest ih => rw [List.foldl_cons, ih, enriched_rebranch]

end Collected

/-- The store with other branches of work items. -/
def Store.rebranch (store : Store) (branch : WorkItem → String) : Store :=
  { store with collected := store.collected.rebranch branch }

@[simp]
theorem Store.rebranch_ledger (store : Store) (branch : WorkItem → String) :
    (store.rebranch branch).ledger = store.ledger := rfl

section Calculation

variable {store : Store} {branch : WorkItem → String}

theorem commitRun_rebranch (apart : KeysApart store.collected.workItems) (environment : Environment)
    (request : RunRequest) (options : RunOptions) :
    let run := commitRun environment store request options
    commitRun environment (store.rebranch branch) request options =
      { run with store := run.store.rebranch branch } := by
  have sameRun : (request.plan (store.rebranch branch) options).run environment request.batchSize
        (store.rebranch branch).ledger =
      (request.plan store options).run environment request.batchSize store.ledger :=
    ((request.plan store options).seesAs_rebranch apart branch).run_eq
  unfold commitRun
  rw [sameRun]
  dsimp only
  split
  · rfl
  · split <;> rfl

theorem commitRun_collected (environment : Environment) (store : Store) (request : RunRequest)
    (options : RunOptions) :
    (commitRun environment store request options).store.collected = store.collected := by
  rcases commitRun_store_cases environment store request options with same | ⟨_, _, left⟩
  · rw [same]
  · rw [left]
    rfl

/-- The calculation gives the same whatever the branches of the work items are. -/
theorem Job.calculateCycleTime_rebranch (apart : KeysApart store.collected.workItems)
    (surroundings : Job.Surroundings) (project : Json) :
    let job := Job.calculateCycleTime surroundings store project
    Job.calculateCycleTime surroundings (store.rebranch branch) project =
      { job with store := job.store.rebranch branch } := by
  unfold Job.calculateCycleTime
  cases RunOptions.ofJson (.object [(projectField, project)]) with
  | error issue => rfl
  | ok options =>
      simp only [commitRun_rebranch apart]
      split <;> rfl

end Calculation

namespace Job

variable {Value Next : Type} {job : JobResult Value} {next : Value → Store → JobResult Next}
variable {surroundings : Surroundings} {store : Store} {project connections : Json}
variable {ids : List Int} {connectionId : Int}

theorem andThen_of_ok {value : Value} (ended : job.result = .ok value) :
    (job.andThen next).result = (next value job.store).result ∧
      (job.andThen next).store = (next value job.store).store := by
  simp [JobResult.andThen, ended]

theorem andThen_of_error {error : JobError} (ended : job.result = .error error) :
    (job.andThen next).result = .error error ∧ (job.andThen next).store = job.store := by
  simp [JobResult.andThen, ended]

/-- The job returns what the pass counts and leaves the rows that the pass leaves. -/
theorem enrichWorkItems_of_enrich {connection : Json} {enrichment : Enrichment}
    (passed : store.collected.enrich connection = .ok enrichment) :
    (enrichWorkItems store connection).result = .ok enrichment.count ∧
      (enrichWorkItems store connection).store =
        { store with collected := enrichment.collected } := by
  simp [enrichWorkItems, passed]

theorem enrichWorkItems_of_fits (fits : fitsColumn connectionId = true) :
    (∃ count, (enrichWorkItems store (.int connectionId)).result = .ok count) ∧
      (enrichWorkItems store (.int connectionId)).store =
        { store with collected := store.collected.enriched connectionId } := by
  rcases store.collected.enrich_of_fits fits with ⟨enrichment, passed, enriched⟩
  rcases enrichWorkItems_of_enrich passed with ⟨result, left⟩
  exact ⟨⟨enrichment.count, result⟩, enriched ▸ left⟩

theorem enrichWorkItems_of_unfit (unfit : fitsColumn connectionId = false) :
    (enrichWorkItems store (.int connectionId)).result =
        .error (.refused .integerTooLarge) ∧
      (enrichWorkItems store (.int connectionId)).store = store := by
  simp [enrichWorkItems, Collected.enrich_of_unfit unfit]

/-- The passes come up to the first connection that is refused. -/
theorem enrichConnections_eq (store : Store) (counts : List (String × Nat)) (ids : List Int) :
    (enrichConnections store counts (ids.map .int)).store =
        store.rebranch (store.collected.branchOver (ids.takeWhile fitsColumn)) ∧
      ((∀ id ∈ ids, fitsColumn id = true) →
        ∃ enriched, (enrichConnections store counts (ids.map .int)).result = .ok enriched) ∧
      ((∃ id ∈ ids, fitsColumn id = false) →
        (enrichConnections store counts (ids.map .int)).result =
          .error (.refused .integerTooLarge)) := by
  induction ids generalizing store counts with
  | nil =>
      refine ⟨?_, fun _ => ⟨counts, rfl⟩, by simp⟩
      exact congrArg (Store.mk · store.ledger) Collected.rebranch_linkedBranch.symm
  | cons connectionId rest ih =>
      rw [List.map_cons]
      unfold enrichConnections
      cases fits : fitsColumn connectionId with
      | false =>
          rcases enrichWorkItems_of_unfit fits with ⟨refused, sameStore⟩
          rcases andThen_of_error refused with ⟨result, left⟩
          refine ⟨?_, fun all => ?_, fun _ => result⟩
          · rw [left, sameStore, List.takeWhile_cons_of_neg (by simp [fits])]
            exact congrArg (Store.mk · store.ledger) Collected.rebranch_linkedBranch.symm
          · exact absurd (all connectionId List.mem_cons_self) (by simp [fits])
      | true =>
          rcases enrichWorkItems_of_fits fits with ⟨⟨count, passed⟩, enriched⟩
          rcases andThen_of_ok passed with ⟨result, left⟩
          rcases ih { store with collected := store.collected.enriched connectionId }
            (setField counts (Json.int connectionId).display count) with
            ⟨restLeft, restPasses, restRefused⟩
          rw [result, left, enriched]
          refine ⟨?_, ?_, ?_⟩
          · rw [restLeft, List.takeWhile_cons_of_pos fits]
            exact congrArg (Store.mk · store.ledger) (Collected.enriched_rebranch _)
          · intro all
            exact restPasses fun id mem => all id (List.mem_cons_of_mem _ mem)
          · rintro ⟨id, mem, unfit⟩
            rcases List.mem_cons.mp mem with rfl | later
            · exact absurd fits (by simp [unfit])
            · exact restRefused ⟨id, later, unfit⟩

/-- After its first stage the pipeline ends as the calculation on the store that this stage left. -/
theorem runPipeline_of_enriched (surroundings : Surroundings) (project : Json)
    {enriched : List (String × Nat)}
    (ended : (enrichListed store connections).result = .ok enriched) :
    let calculation :=
      calculateCycleTime surroundings (enrichListed store connections).store project
    (runPipeline surroundings store project connections).result.map (·.summary) =
        calculation.result ∧
      (runPipeline surroundings store project connections).store = calculation.store := by
  intro calculation
  unfold runPipeline
  simp only [JobResult.andThen, printing, ended]
  cases calculated : (calculateCycleTime surroundings (enrichListed store connections).store
      project).result with
  | error error => simp [calculation, Except.map]
  | ok summary => simp [calculation, Except.map]

theorem runPipeline_of_refused {error : JobError}
    (ended : (enrichListed store connections).result = .error error) :
    (runPipeline surroundings store project connections).result = .error error ∧
      (runPipeline surroundings store project connections).store =
        (enrichListed store connections).store := by
  simp [runPipeline, JobResult.andThen, printing, ended]

theorem enrichListed_eq (lists : listed connections = .ok (ids.map .int)) :
    enrichListed store connections = enrichConnections store [] (ids.map .int) := by
  simp only [enrichListed, lists]

/-- The whole pipeline, if no connection is refused. -/
theorem runPipeline_of_fit (apart : KeysApart store.collected.workItems)
    (lists : listed connections = .ok (ids.map .int)) (fit : ∀ id ∈ ids, fitsColumn id = true) :
    let calculation := calculateCycleTime surroundings store project
    (runPipeline surroundings store project connections).result.map (·.summary) =
        calculation.result ∧
      (runPipeline surroundings store project connections).store =
        calculation.store.rebranch (store.collected.branchOver ids) := by
  intro calculation
  rcases enrichConnections_eq store [] ids with ⟨left, passes, _⟩
  rcases passes fit with ⟨enriched, ended⟩
  rw [← enrichListed_eq lists] at left ended
  rw [List.takeWhile_eq_self_iff.mpr fit] at left
  rcases runPipeline_of_enriched surroundings project ended with ⟨result, leaves⟩
  rw [result, leaves, left, calculateCycleTime_rebranch apart]
  exact ⟨rfl, rfl⟩

theorem runPipeline_of_unfit (lists : listed connections = .ok (ids.map .int))
    (unfit : ∃ id ∈ ids, fitsColumn id = false) :
    (runPipeline surroundings store project connections).result =
        .error (.refused .integerTooLarge) ∧
      (runPipeline surroundings store project connections).store =
        store.rebranch (store.collected.branchOver (ids.takeWhile fitsColumn)) := by
  rcases enrichConnections_eq store [] ids with ⟨left, _, refused⟩
  rw [← enrichListed_eq lists] at left refused
  rcases runPipeline_of_refused (refused unfit) with ⟨result, leaves⟩
  exact ⟨result, leaves.trans left⟩

theorem calculateCycleTime_collected :
    (calculateCycleTime surroundings store project).store.collected = store.collected := by
  unfold calculateCycleTime
  cases RunOptions.ofJson (.object [(projectField, project)]) with
  | error issue => rfl
  | ok options =>
      have kept := commitRun_collected surroundings.environment store
        ⟨options.project, none, surroundings.faults, surroundings.signals⟩ options
      dsimp only
      split
      · exact kept
      · exact kept

end Job

namespace Collected

/-- Collected rows that differ in nothing but the branches of the work items of some connections. -/
structure OnlyBranchesDiffer (connections : List Int) (before after : Collected) : Prop where
  workItems : List.Forall₂ (fun item changed =>
      changed = item.withBranch changed.linkedBranch ∧
        (item.connectionId ∉ connections → changed = item))
    before.workItems after.workItems
  otherTables : { after with workItems := before.workItems } = before

theorem onlyBranchesDiffer_rebranch {collected : Collected} {connections reached : List Int}
    (among : reached ⊆ connections) :
    collected.OnlyBranchesDiffer connections
      (collected.rebranch (collected.branchOver reached)) where
  workItems := by
    apply List.forall₂_map_right_iff.mpr
    apply List.forall₂_same.mpr
    intro item _
    refine ⟨rfl, fun other => ?_⟩
    have notReached : item.connectionId ∉ reached := fun mem => other (among mem)
    simp [branchOver, notReached]
  otherTables := rfl

end Collected

/-- Enrichment and calculation are independent stages of the pipeline. If no connection is refused,
the pipeline returns the summary of the calculation alone, or fails as it does, and leaves the
records that the calculation alone leaves from the same store; the work items that it leaves are the
same for every list of the same connections. In any case the collected rows change in nothing but
the branches of work items of these connections.

The identifiers of connections are integers that a column can hold, and this is what `fitsColumn`
says of them. If the list has an integer that does not fit, which is the identifier of no
connection, the pipeline is refused before it calculates, and no record changes. -/
theorem pipeline_stages_are_independent {surroundings : Job.Surroundings} {store : Store}
    {project connections : Json} {ids : List Int} (wellKeyed : store.WellKeyed)
    (lists : Job.listed connections = .ok (ids.map .int)) :
    let pipeline := Job.runPipeline surroundings store project
    let alone := Job.calculateCycleTime surroundings store project
    ((∀ id ∈ ids, fitsColumn id = true) →
      (pipeline connections).result.map (·.summary) = alone.result ∧
      (pipeline connections).store.ledger = alone.store.ledger ∧
      ∀ (others : Json) (otherIds : List Int), Job.listed others = .ok (otherIds.map .int) →
        (∀ id, id ∈ otherIds ↔ id ∈ ids) →
          (pipeline others).store.collected = (pipeline connections).store.collected) ∧
    store.collected.OnlyBranchesDiffer ids (pipeline connections).store.collected ∧
    ((∃ id ∈ ids, fitsColumn id = false) →
      (pipeline connections).result = .error (.refused .integerTooLarge) ∧
      (pipeline connections).store.ledger = store.ledger) := by
  intro pipeline alone
  have apart := wellKeyed.workItems
  have kept : alone.store.collected = store.collected := Job.calculateCycleTime_collected
  -- What the pipeline leaves of the collected rows, if no connection is refused.
  have leaves {others : Json} {otherIds : List Int}
      (lists : Job.listed others = .ok (otherIds.map .int))
      (fit : ∀ id ∈ otherIds, fitsColumn id = true) :
      (pipeline others).store.collected =
        store.collected.rebranch (store.collected.branchOver otherIds) := by
    rw [(Job.runPipeline_of_fit apart lists fit).2, Store.rebranch, kept]
  refine ⟨?_, ?_, ?_⟩
  · intro fit
    rcases Job.runPipeline_of_fit apart lists fit with ⟨result, left⟩
    refine ⟨result, (congrArg Store.ledger left).trans (Store.rebranch_ledger _ _), ?_⟩
    intro others otherIds otherLists same
    have otherFit : ∀ id ∈ otherIds, fitsColumn id = true := fun id mem =>
      fit id ((same id).mp mem)
    rw [leaves otherLists otherFit, leaves lists fit, Collected.branchOver_congr same]
  · by_cases fit : ∀ id ∈ ids, fitsColumn id = true
    · rw [leaves lists fit]
      exact Collected.onlyBranchesDiffer_rebranch (List.Subset.refl ids)
    · have unfit : ∃ id ∈ ids, fitsColumn id = false := by simpa using fit
      have left : (pipeline connections).store =
          store.rebranch (store.collected.branchOver (ids.takeWhile fitsColumn)) :=
        (Job.runPipeline_of_unfit lists unfit).2
      rw [left]
      exact Collected.onlyBranchesDiffer_rebranch (List.takeWhile_subset _)
  · intro unfit
    rcases Job.runPipeline_of_unfit lists unfit with ⟨result, left⟩
    exact ⟨result, (congrArg Store.ledger left).trans (Store.rebranch_ledger _ _)⟩

/-- A pipeline that makes two passes over the connection of the task. -/
theorem pipeline_stages_are_independent_of_sharedNumber :
    let surroundings : Job.Surroundings := ⟨[], .none, .none⟩
    let pipeline := Job.runPipeline surroundings ⟨sharedNumber, []⟩ (.string "project")
      (.array [.int 1, .int 1])
    pipeline.result.map (·.summary) =
        (Job.calculateCycleTime surroundings ⟨sharedNumber, []⟩ (.string "project")).result ∧
      sharedNumber.OnlyBranchesDiffer [1, 1] pipeline.store.collected := by
  intro surroundings pipeline
  have lists : Job.listed (.array [.int 1, .int 1]) = .ok ([1, 1].map .int) := rfl
  rcases pipeline_stages_are_independent wellKeyed_sharedNumber lists with ⟨same, differ, _⟩
  rcases same (by decide) with ⟨result, _⟩
  exact ⟨result, differ⟩

end DeliveryCycle
