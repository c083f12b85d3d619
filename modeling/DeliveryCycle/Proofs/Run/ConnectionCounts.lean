import DeliveryCycle.Proofs.Run.Completion
import DeliveryCycle.Proofs.Run.Enrichment

/-!
# What the pipeline reports

The pipeline makes one pass for each connection that it is given and keeps the count of each pass
under the connection. Passes are told apart by their place in the list, but counts by the connection
only: if a connection is given again, the count of its last pass takes the place of the first one.
The last pass changes nothing, because the first one did all. `countsByConnection` is what the
pipeline reports, and `pipeline_reports_counts` says when that is the number of the work items whose
branches changed.
-/

namespace DeliveryCycle

section Fields

variable {Key Value : Type} {name : Key → String} {value : Key → Value}
variable {keys : List Key} {key : Key}

/-- What is kept under a key in the fields for a list of keys. -/
theorem getField?_map [DecidableEq Key] (apart : Function.Injective name) (mem : key ∈ keys) :
    getField? (keys.map fun key => (name key, value key)) (name key) = some (value key) := by
  induction keys with
  | nil => contradiction
  | cons first rest ih =>
      by_cases same : first = key
      · simp [getField?, same]
      · have later : key ∈ rest := (List.mem_cons.mp mem).resolve_left (Ne.symm same)
        have other : name first ≠ name key := fun equal => same (apart equal)
        simpa [getField?, other] using ih later

theorem setField_map_of_mem [DecidableEq Key] (apart : Function.Injective name) (nodup : keys.Nodup)
    (mem : key ∈ keys) (changed : Value) :
    setField (keys.map fun key => (name key, value key)) (name key) changed =
      keys.map fun other => (name other, if other = key then changed else value other) := by
  induction keys with
  | nil => contradiction
  | cons first rest ih =>
      rcases List.nodup_cons.mp nodup with ⟨absent, restNodup⟩
      by_cases same : first = key
      · have kept : rest.map (fun other => (name other, value other)) =
            rest.map fun other => (name other, if other = key then changed else value other) := by
          apply List.map_congr_left
          intro other otherMem
          rw [if_neg (ne_of_mem_of_not_mem otherMem (same ▸ absent))]
        simp [setField, same, kept]
      · have later : key ∈ rest := (List.mem_cons.mp mem).resolve_left (Ne.symm same)
        have other : name first ≠ name key := fun equal => same (apart equal)
        simp [setField, other, same, ih restNodup later]

theorem setField_map_of_notMem (apart : Function.Injective name) (absent : key ∉ keys)
    (added : Value) :
    setField (keys.map fun key => (name key, value key)) (name key) added =
      keys.map (fun key => (name key, value key)) ++ [(name key, added)] := by
  induction keys with
  | nil => rfl
  | cons first rest ih =>
      rw [List.mem_cons, not_or] at absent
      have other : name first ≠ name key := fun equal => absent.1 (apart equal.symm)
      simp [setField, other, ih absent.2]

end Fields

/-- The number of work items of a connection whose branch is not what it was. -/
def changedBranches (connectionId : Int) (before after : List WorkItem) : Nat :=
  (before.zip after).countP fun rows =>
    rows.1.connectionId = connectionId && rows.1.linkedBranch ≠ rows.2.linkedBranch

/-- A count for each connection of a list: its own if the list has it once, and else none. -/
def countsByConnection (ids : List Int) (changed : Int → Nat) : List (String × Nat) :=
  ids.eraseDups.map fun id => (toString id, if ids.count id = 1 then changed id else 0)

/-- A report has one count for each connection of a list, and it is the number of work items of the
connection whose branches changed. -/
structure ReportsTruthfully (ids : List Int) (before after : List WorkItem)
    (counts : List (String × Nat)) : Prop where
  single : (counts.map (·.1)).Nodup
  named : ∀ name, name ∈ counts.map (·.1) ↔ ∃ id ∈ ids, toString id = name
  counted : ∀ id ∈ ids, getField? counts (toString id) = some (changedBranches id before after)

section Counts

variable {ids : List Int} {id : Int} {changed : Int → Nat}

theorem injective_toString_int : Function.Injective fun id : Int => toString id :=
  fun _ _ same => Int.repr_injective same

theorem eraseDups_append_singleton (ids : List Int) (id : Int) :
    (ids ++ [id]).eraseDups = if id ∈ ids then ids.eraseDups else ids.eraseDups ++ [id] := by
  rw [List.eraseDups_append]
  by_cases mem : id ∈ ids
  · have none : [id].removeAll ids = [] := by simp [List.removeAll, mem]
    rw [none, if_pos mem, List.eraseDups_nil, List.append_nil]
  · have kept : [id].removeAll ids = [id] := by simp [List.removeAll, mem]
    rw [kept, if_neg mem, List.eraseDups_cons]
    rfl

/-- The counts after one more pass. -/
theorem countsByConnection_append (ids : List Int) (id : Int) (changed : Int → Nat) :
    countsByConnection (ids ++ [id]) changed =
      setField (countsByConnection ids changed) (toString id)
        (if id ∈ ids then 0 else changed id) := by
  have counted (other : Int) : (ids ++ [id]).count other =
      ids.count other + if id = other then 1 else 0 := by
    rw [List.count_append, List.count_singleton]
    simp
  unfold countsByConnection
  rw [eraseDups_append_singleton]
  by_cases mem : id ∈ ids
  · rw [if_pos mem, if_pos mem, setField_map_of_mem injective_toString_int (nodup_eraseDups ids)
      (List.mem_eraseDups.mpr mem)]
    apply List.map_congr_left
    intro other _
    have positive : ids.count id ≠ 0 := (List.count_pos_iff.mpr mem).ne.symm
    rw [counted]
    by_cases same : other = id
    · simp [same, positive]
    · simp [same, Ne.symm same]
  · have absent : id ∉ ids.eraseDups := fun found => mem (List.mem_eraseDups.mp found)
    have none : ids.count id = 0 := List.count_eq_zero.mpr mem
    rw [if_neg mem, if_neg mem, setField_map_of_notMem injective_toString_int absent,
      List.map_append]
    congr 1
    · apply List.map_congr_left
      intro other otherMem
      rw [counted, if_neg (ne_of_mem_of_not_mem otherMem absent).symm, Nat.add_zero]
    · simp [counted, none]

theorem countsByConnection_congr {others : Int → Nat} (same : ∀ id ∈ ids, changed id = others id) :
    countsByConnection ids changed = countsByConnection ids others := by
  apply List.map_congr_left
  intro id mem
  rw [same id (List.mem_eraseDups.mp mem)]

theorem getField?_countsByConnection (mem : id ∈ ids) :
    getField? (countsByConnection ids changed) (toString id) =
      some (if ids.count id = 1 then changed id else 0) :=
  getField?_map injective_toString_int (List.mem_eraseDups.mpr mem)

/-- The counts are true as far as no connection that is given again had work items to change. -/
theorem reportsTruthfully_iff {before after : List WorkItem} :
    ReportsTruthfully ids before after
        (countsByConnection ids fun id => changedBranches id before after) ↔
      ∀ id ∈ ids, ids.count id = 1 ∨ changedBranches id before after = 0 := by
  constructor
  · intro truthful id mem
    have counted := truthful.counted id mem
    rw [getField?_countsByConnection mem, Option.some.injEq] at counted
    by_cases once : ids.count id = 1
    · exact .inl once
    · rw [if_neg once] at counted
      exact .inr counted.symm
  · intro settled
    have names : (countsByConnection ids fun id => changedBranches id before after).map (·.1) =
        ids.eraseDups.map fun id => toString id := by
      rw [countsByConnection, List.map_map]
      rfl
    refine ⟨?_, ?_, ?_⟩
    · rw [names]
      exact (List.nodup_map_iff injective_toString_int).mpr (nodup_eraseDups ids)
    · intro name
      simp [names]
    · intro id mem
      rw [getField?_countsByConnection mem, Option.some.injEq]
      rcases settled id mem with once | unchanged
      · rw [if_pos once]
      · rw [unchanged, ite_self]

end Counts

theorem WorkItem.withBranch_eq_self_iff {item : WorkItem} {branch : String} :
    item.withBranch branch = item ↔ branch = item.linkedBranch := by
  constructor
  · intro same
    exact congrArg WorkItem.linkedBranch same
  · rintro rfl
    rfl

namespace Collected

variable {collected : Collected} {ids : List Int} {id : Int}

/-- A pass changes the work items of its connection whose branch is not the one looked up. -/
theorem enrichedCount_eq :
    collected.enrichedCount id = collected.workItems.countP fun item =>
      item.connectionId = id && collected.branchAfter item ≠ item.linkedBranch := by
  rw [enrichedCount, List.countP_eq_length_filter]
  congr 2
  funext item
  rw [enrichedItem_eq]
  by_cases own : item.connectionId = id
  · simp [own, WorkItem.withBranch_eq_self_iff]
  · simp [own]

/-- A pass over a connection that has been passed over changes nothing, and passes over other
connections do not matter to it. -/
theorem enrichedCount_rebranch :
    (collected.rebranch (collected.branchOver ids)).enrichedCount id =
      if id ∈ ids then 0 else collected.enrichedCount id := by
  have sameRows : (collected.rebranch (collected.branchOver ids)).branchAfter =
      collected.branchAfter := rfl
  rw [enrichedCount_eq, enrichedCount_eq, sameRows, rebranch, List.countP_map]
  by_cases mem : id ∈ ids
  · rw [if_pos mem, List.countP_eq_zero]
    intro item _
    by_cases own : item.connectionId = id
    · have looked : collected.branchOver ids item = collected.branchAfter item :=
        if_pos (own ▸ mem)
      have again : collected.branchAfter (item.withBranch (collected.branchAfter item)) =
          (item.withBranch (collected.branchAfter item)).linkedBranch := branchAfter_withBranch
      simp [looked, again]
    · simp [own, WorkItem.withBranch]
  · rw [if_neg mem]
    apply List.countP_congr
    intro item _
    by_cases own : item.connectionId = id
    · have kept : collected.branchOver ids item = item.linkedBranch := if_neg (own ▸ mem)
      simp [kept]
    · simp [own, WorkItem.withBranch]

theorem changedBranches_rebranch (mem : id ∈ ids) :
    changedBranches id collected.workItems
        (collected.rebranch (collected.branchOver ids)).workItems =
      collected.enrichedCount id := by
  rw [enrichedCount_eq, changedBranches, rebranch, countP_zip_map]
  apply List.countP_congr
  intro item _
  by_cases own : item.connectionId = id
  · have looked : collected.branchOver ids item = collected.branchAfter item := by
      rw [branchOver, if_pos (own ▸ mem)]
    have taken : (item.withBranch (collected.branchAfter item)).linkedBranch =
        collected.branchAfter item := rfl
    rw [looked, taken]
    simp only [ne_comm]
  · simp [own]

theorem enriched_rebranch_append :
    (collected.rebranch (collected.branchOver ids)).enriched id =
      collected.rebranch (collected.branchOver (ids ++ [id])) := by
  rw [← foldl_enriched, ← foldl_enriched, List.foldl_append]
  rfl

end Collected

namespace Job

variable {surroundings : Surroundings} {store : Store} {project connections : Json}
variable {done ids : List Int}

/-- The passes over some connections, after those over others were made and counted. -/
theorem enrichConnections_counts (store : Store) (done : List Int)
    (fit : ∀ id ∈ ids, fitsColumn id = true) :
    (enrichConnections (store.rebranch (store.collected.branchOver done))
        (countsByConnection done store.collected.enrichedCount) (ids.map .int)).result =
      .ok (countsByConnection (done ++ ids) store.collected.enrichedCount) := by
  induction ids generalizing done with
  | nil => simp [enrichConnections, printing]
  | cons id rest ih =>
      let before := store.rebranch (store.collected.branchOver done)
      rcases before.collected.enrich_of_fits (fit id List.mem_cons_self) with
        ⟨enrichment, passed, enriched⟩
      rcases enrichWorkItems_of_enrich passed with ⟨counted, left⟩
      have count : enrichment.count = if id ∈ done then 0 else store.collected.enrichedCount id :=
        (Collected.count_of_enrich (fit id List.mem_cons_self) passed).trans
          Collected.enrichedCount_rebranch
      have after : (enrichWorkItems before (.int id)).store =
          store.rebranch (store.collected.branchOver (done ++ [id])) := by
        rw [left, enriched]
        exact congrArg (Store.mk · store.ledger) Collected.enriched_rebranch_append
      have reported : setField (countsByConnection done store.collected.enrichedCount)
          (Json.int id).display enrichment.count =
            countsByConnection (done ++ [id]) store.collected.enrichedCount := by
        rw [count, Json.display_int, countsByConnection_append]
      rw [List.map_cons, enrichConnections, (andThen_of_ok counted).1, after, reported,
        ih (done ++ [id]) fun other mem => fit other (List.mem_cons_of_mem _ mem)]
      simp

/-- The first stage of the pipeline, if no connection is refused. -/
theorem enrichListed_result (lists : listed connections = .ok (ids.map .int))
    (fit : ∀ id ∈ ids, fitsColumn id = true) :
    (enrichListed store connections).result =
      .ok (countsByConnection ids store.collected.enrichedCount) := by
  have unchanged : store.rebranch (store.collected.branchOver []) = store :=
    congrArg (Store.mk · store.ledger) Collected.rebranch_linkedBranch
  have counted := enrichConnections_counts store [] fit
  rw [unchanged] at counted
  rw [enrichListed_eq lists]
  exact counted

/-- The pipeline reports the counts of its first stage. -/
theorem enriched_of_runPipeline {counts : List (String × Nat)} {report : PipelineReport}
    (ended : (enrichListed store connections).result = .ok counts)
    (returned : (runPipeline surroundings store project connections).result = .ok report) :
    report.enriched = counts := by
  unfold runPipeline at returned
  simp only [JobResult.andThen, printing, ended] at returned
  split at returned
  · contradiction
  · simp only [Except.ok.injEq] at returned
    rw [← returned]

/-- A pipeline that returns was given connections that can be stored. -/
theorem fit_of_runPipeline {report : PipelineReport}
    (lists : listed connections = .ok (ids.map .int))
    (returned : (runPipeline surroundings store project connections).result = .ok report) :
    ∀ id ∈ ids, fitsColumn id = true := by
  by_contra unfit
  have refused : (runPipeline surroundings store project connections).result =
      .error (.refused .integerTooLarge) :=
    (runPipeline_of_unfit lists (by simpa using unfit)).1
  rw [refused] at returned
  contradiction

theorem runPipeline_collected (lists : listed connections = .ok (ids.map .int))
    (fit : ∀ id ∈ ids, fitsColumn id = true) :
    (runPipeline surroundings store project connections).store.collected =
      store.collected.rebranch (store.collected.branchOver ids) := by
  have ended : (enrichListed store connections).result = .ok _ := enrichListed_result lists fit
  have left : (runPipeline surroundings store project connections).store = _ :=
    (runPipeline_of_enriched surroundings project ended).2
  rw [left, calculateCycleTime_collected, enrichListed_eq lists,
    (enrichConnections_eq store [] ids).1, List.takeWhile_eq_self_iff.mpr fit]
  rfl

/-- The counts that a pipeline reports, by the rows before and after it. -/
theorem enriched_of_returned {report : PipelineReport}
    (lists : listed connections = .ok (ids.map .int))
    (returned : (runPipeline surroundings store project connections).result = .ok report) :
    report.enriched = countsByConnection ids fun id =>
      changedBranches id store.collected.workItems
        (runPipeline surroundings store project connections).store.collected.workItems := by
  have fit := fit_of_runPipeline lists returned
  rw [enriched_of_runPipeline (enrichListed_result lists fit) returned]
  apply countsByConnection_congr
  intro id mem
  rw [runPipeline_collected lists fit, Collected.changedBranches_rebranch mem]

/-- A calculation that nothing disturbs returns. -/
theorem calculateCycleTime_of_undisturbed {options : RunOptions} (store : Store)
    (accepted : RunOptions.ofJson (.object [(projectField, project)]) = .ok options)
    (faultless : surroundings.faults = .none) (undisturbed : surroundings.signals = .none)
    (usable : UsableBatch surroundings.environment none) :
    ∃ summary, (calculateCycleTime surroundings store project).result = .ok summary := by
  let request : RunRequest := ⟨options.project, none, surroundings.faults, surroundings.signals⟩
  let plan := request.plan store options
  have unhit : plan.faults = .none := faultless
  have unsignalled : plan.signals = .none := undisturbed
  have steady : plan.Steady := by
    constructor
    · intro task
      rw [unhit]
      rfl
    · intro number
      rw [unsignalled]
      rfl
  rcases RunPlan.run_of_faultless unhit steady surroundings.environment none store.ledger with
    ⟨summary, returned, _⟩ | ⟨_, _, _, unusable⟩
  · have goesOn : (plan.run surroundings.environment none store.ledger).stopping = false := by
      by_contra stopping
      have stops := RunPlan.stops_of_run_stopping returned (by simpa using stopping)
      rw [unsignalled] at stops
      exact Signals.not_stops_none stops
    have committed : (commitRun surroundings.environment store request options).result =
        .ok summary := by
      simp only [commitRun, request, plan] at returned goesOn ⊢
      simp [returned, goesOn]
    refine ⟨summary, ?_⟩
    simp only [calculateCycleTime, accepted]
    rw [committed]
  · exact absurd usable unusable

/-- A pipeline that nothing disturbs returns a report. -/
theorem runPipeline_of_undisturbed {options : RunOptions} (store : Store)
    (lists : listed connections = .ok (ids.map .int)) (fit : ∀ id ∈ ids, fitsColumn id = true)
    (accepted : RunOptions.ofJson (.object [(projectField, project)]) = .ok options)
    (faultless : surroundings.faults = .none) (undisturbed : surroundings.signals = .none)
    (usable : UsableBatch surroundings.environment none) :
    ∃ report, (runPipeline surroundings store project connections).result = .ok report := by
  have ended : (enrichListed store connections).result = .ok _ := enrichListed_result lists fit
  rcases calculateCycleTime_of_undisturbed (enrichListed store connections).store accepted faultless
    undisturbed usable with ⟨summary, calculated⟩
  have summarized : (runPipeline surroundings store project connections).result.map (·.summary) =
      .ok summary := (runPipeline_of_enriched surroundings project ended).1.trans calculated
  cases returned : (runPipeline surroundings store project connections).result with
  | error error =>
      rw [returned] at summarized
      contradiction
  | ok report => exact ⟨report, rfl⟩

end Job

/-- What the pipeline reports for a list of connections. If nothing disturbs it, it returns a
report. A report that it returns has one count for each connection: the number of the work items of
the connection whose branches are not what they were, if the list has the connection once, and zero
if it has it again. So the report is true exactly if no connection that is given again had work
items whose branches changed. -/
theorem pipeline_reports_counts {surroundings : Job.Surroundings} {store : Store}
    {project connections : Json} {ids : List Int}
    (lists : Job.listed connections = .ok (ids.map .int)) :
    let pipeline := Job.runPipeline surroundings store project connections
    let changed := fun id =>
      changedBranches id store.collected.workItems pipeline.store.collected.workItems
    ((∀ id ∈ ids, fitsColumn id = true) →
      (∃ options, RunOptions.ofJson (.object [(projectField, project)]) = .ok options) →
      surroundings.faults = .none → surroundings.signals = .none →
      UsableBatch surroundings.environment none →
        ∃ report, pipeline.result = .ok report) ∧
    ∀ report, pipeline.result = .ok report →
      store.collected.OnlyBranchesDiffer ids pipeline.store.collected ∧
      report.enriched = countsByConnection ids changed ∧
      (ReportsTruthfully ids store.collected.workItems pipeline.store.collected.workItems
          report.enriched ↔ ∀ id ∈ ids, ids.count id = 1 ∨ changed id = 0) := by
  intro pipeline changed
  constructor
  · rintro fit ⟨options, accepted⟩ faultless undisturbed usable
    exact Job.runPipeline_of_undisturbed store lists fit accepted faultless undisturbed usable
  · intro report returned
    have after : pipeline.store.collected =
        store.collected.rebranch (store.collected.branchOver ids) :=
      Job.runPipeline_collected lists (Job.fit_of_runPipeline lists returned)
    have counts : report.enriched = countsByConnection ids changed :=
      Job.enriched_of_returned lists returned
    refine ⟨?_, counts, counts ▸ reportsTruthfully_iff⟩
    rw [after]
    exact Collected.onlyBranchesDiffer_rebranch (List.Subset.refl ids)

/-- Surroundings in which nothing disturbs a job. -/
def calmSurroundings : Job.Surroundings := ⟨[], .none, .none⟩

theorem usableBatch_calmSurroundings : UsableBatch calmSurroundings.environment none :=
  ⟨100, by decide, by decide, by decide⟩

theorem accepted_project :
    RunOptions.ofJson (.object [(projectField, .string "project")]) = .ok ⟨"project"⟩ := by
  decide

theorem enrichedCount_sharedNumber : sharedNumber.enrichedCount 1 = 1 := by
  cbv

/-- A pipeline whose last connection is given twice and has no work items. -/
theorem pipeline_reports_counts_of_sharedNumber :
    let pipeline := Job.runPipeline calmSurroundings ⟨sharedNumber, []⟩ (.string "project")
      (.array [.int 1, .int 2, .int 2])
    ∃ report, pipeline.result = .ok report ∧ report.enriched = [("1", 1), ("2", 0)] ∧
      ReportsTruthfully [1, 2, 2] sharedNumber.workItems pipeline.store.collected.workItems
        report.enriched := by
  intro pipeline
  have lists : Job.listed (.array [.int 1, .int 2, .int 2]) = .ok ([1, 2, 2].map .int) := rfl
  rcases pipeline_reports_counts lists with ⟨returns, counts⟩
  rcases returns (by decide) ⟨_, accepted_project⟩ rfl rfl usableBatch_calmSurroundings with
    ⟨report, returned⟩
  rcases counts report returned with ⟨_, enriched, truthful⟩
  have after : pipeline.store.collected =
      sharedNumber.rebranch (sharedNumber.branchOver [1, 2, 2]) :=
    Job.runPipeline_collected lists (by decide)
  have first : changedBranches 1 sharedNumber.workItems pipeline.store.collected.workItems = 1 := by
    rw [after, Collected.changedBranches_rebranch (by decide), enrichedCount_sharedNumber]
  have second :
      changedBranches 2 sharedNumber.workItems pipeline.store.collected.workItems = 0 := by
    rw [after, Collected.changedBranches_rebranch (by decide)]
    decide
  refine ⟨report, returned, ?_, truthful.mpr ?_⟩
  · have listed : ([1, 2, 2] : List Int).eraseDups = [1, 2] := by decide
    have printed : toString (1 : Int) = "1" ∧ toString (2 : Int) = "2" := by decide
    simp only [enriched, countsByConnection, listed, List.map_cons, List.map_nil, printed]
    exact congrArg (fun count => [("1", count), ("2", 0)]) first
  · intro id mem
    simp only [List.mem_cons, List.not_mem_nil, or_false, or_self] at mem
    rcases mem with rfl | rfl
    · exact .inl rfl
    · exact .inr second

/-- A connection that is given twice is reported without the work items that changed. -/
theorem not_forall_reportsTruthfully :
    ¬∀ (surroundings : Job.Surroundings) (store : Store) (project connections : Json)
        (ids : List Int), store.WellKeyed → Job.listed connections = .ok (ids.map .int) →
      let pipeline := Job.runPipeline surroundings store project connections
      ∀ report, pipeline.result = .ok report →
        ReportsTruthfully ids store.collected.workItems pipeline.store.collected.workItems
          report.enriched := by
  intro truthful
  have lists : Job.listed (.array [.int 1, .int 1]) = .ok ([1, 1].map .int) := rfl
  have fit : ∀ id ∈ [(1 : Int), 1], fitsColumn id = true := by decide
  rcases Job.runPipeline_of_undisturbed ⟨sharedNumber, []⟩ lists fit accepted_project
    rfl rfl usableBatch_calmSurroundings with ⟨report, returned⟩
  have truthfulHere :=
    truthful calmSurroundings _ _ _ _ wellKeyed_sharedNumber lists report returned
  rw [Job.enriched_of_returned lists returned, reportsTruthfully_iff,
    Job.runPipeline_collected lists fit] at truthfulHere
  rcases truthfulHere 1 (by decide) with once | unchanged
  · contradiction
  · rw [Collected.changedBranches_rebranch (by decide), enrichedCount_sharedNumber] at unchanged
    contradiction

end DeliveryCycle
