import DeliveryCycle.Run.Commit

/-!
# What a run sees of its rows

A run reads the collected rows in two ways only: it asks for the candidates of its project, and it
resolves them. `RunPlan.SeesAs` relates rows that give a plan the same answers, though work items
may look different in them. Runs over rows so related are the same step by step, whatever faults and
signals they meet: `SeesAs.walk_eq` and, for the whole run, `SeesAs.run_eq`.
-/

namespace DeliveryCycle

/-- A cursor fetches rows without looking at them. -/
theorem fetched_map {Row Seen : Type} (seen : Row → Seen) (size : Int) (rows : List Row) :
    fetched size (rows.map seen) =
      ⟨(fetched size rows).rows.map seen, (fetched size rows).failure⟩ := by
  unfold fetched
  rw [List.isEmpty_map, List.length_map]
  generalize (if rows.isEmpty then (0 : Int) else 1) = opened
  dsimp only
  split
  · rfl
  · split
    · rfl
    · split <;> rfl

namespace RunPlan

variable {plan : RunPlan} {collected : Collected} {seen : WorkItem → WorkItem}
variable {environment : Environment} {batchSize : Option Int} {ledger : Ledger} {state : RunState}
variable {items : List WorkItem}

/-- The same plan over other collected rows. -/
def withRows (plan : RunPlan) (collected : Collected) : RunPlan :=
  { plan with collected := collected }

/-- Other collected rows give a plan the same answers about work items as they look there. -/
structure SeesAs (plan : RunPlan) (collected : Collected) (seen : WorkItem → WorkItem) : Prop where
  candidates : collected.candidates plan.project =
    (plan.collected.candidates plan.project).map seen
  resolution : ∀ item, resolve .usual collected plan.project (seen item) =
    resolve .usual plan.collected plan.project item
  key : ∀ item, (seen item).key = item.key

theorem SeesAs.processCandidate_eq (same : plan.SeesAs collected seen) (ledger : Ledger)
    (item : WorkItem) :
    processCandidate plan.faults collected plan.project ledger (seen item) =
      processCandidate plan.faults plan.collected plan.project ledger item := by
  have sameConnection : (seen item).connectionId = item.connectionId :=
    congrArg Prod.fst (same.key item)
  have sameId : (seen item).id = item.id := congrArg Prod.snd (same.key item)
  have sameEntry (failure : StorageFailure) :
      failureEntry (seen item) failure = failureEntry item failure := by
    simp only [failureEntry, sameConnection, sameId]
  have sameWrite (correlation : Correlation Moment) :
      writeRecord plan.faults ledger (seen item) correlation =
        writeRecord plan.faults ledger item correlation := by
    simp only [writeRecord, same.key]
  unfold processCandidate CandidateWork.close workOn
  simp only [same.key, same.resolution, sameWrite, sameEntry]

theorem SeesAs.advance_eq (same : plan.SeesAs collected seen) (item : WorkItem) :
    state.advance (plan.withRows collected) (seen item) = state.advance plan item := by
  have sameProcessed := same.processCandidate_eq state.ledger item
  simp only [RunState.advance, withRows, sameProcessed, same.key]

theorem SeesAs.walk_eq (same : plan.SeesAs collected seen) :
    state.walk (plan.withRows collected) (items.map seen) = state.walk plan items := by
  induction items generalizing state with
  | nil => rfl
  | cons item rest ih =>
      rw [List.map_cons]
      unfold RunState.walk
      simp only [same.advance_eq, ih]
      rfl

theorem SeesAs.candidates_eq (same : plan.SeesAs collected seen) :
    (plan.withRows collected).candidates environment batchSize =
      (plan.candidates environment batchSize).map fun found =>
        ⟨found.rows.map seen, found.failure⟩ := by
  unfold RunPlan.candidates
  cases (chosenBatchSize environment batchSize).mapError RunError.unreadableBatchSize with
  | error error => rfl
  | ok size =>
      simp only [withRows, same.candidates, fetched_map, bind, Except.bind]
      cases plan.faults.cursor with
      | some failure => rfl
      | none => rfl

theorem SeesAs.run_eq (same : plan.SeesAs collected seen) :
    (plan.withRows collected).run environment batchSize ledger =
      plan.run environment batchSize ledger := by
  unfold run
  rw [same.candidates_eq]
  cases plan.candidates environment batchSize with
  | error error => rfl
  | ok candidates =>
      simp only [Except.map, same.walk_eq]
      rfl

end RunPlan

end DeliveryCycle
