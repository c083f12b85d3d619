import DeliveryCycle.Proofs.Run.Processing

/-!
# The walk over the candidates

A run that does not break down processes a prefix of its candidates, and what reaches it from
outside decides alone how long this prefix is. `Signals.limit` counts the candidates that are
started: none once the run is told to stop, and otherwise one more than after the next candidate.
The main statement is `walk_eq`, by which the walk is a fold of `RunPlan.processed` over this
prefix. What the fold does to the ledger, to the summary and to the number of reports can then be
read one by one.
-/

namespace DeliveryCycle

namespace Signals

/-- Whether a run is told to stop while it works on a candidate or while it reports it. -/
def stopsWith (signals : Signals) (number : Nat) (item : WorkItem) : Bool :=
  signals.stopDuring item.key || signals.stopAtReport number

/-- A run is told to stop, before it starts or at some time during it. -/
def Stops (signals : Signals) : Prop :=
  signals.stopAtStart = true ∨ ∃ number item, signals.stopsWith number item = true

/-- The number of candidates that a run starts after a number of reports. -/
def limit (signals : Signals) (stopping : Bool) (reports : Nat) : List WorkItem → Nat
  | [] => 0
  | item :: rest =>
      if stopping then 0
      else signals.limit (signals.stopsWith (reports + 1) item) (reports + 1) rest + 1

variable {signals : Signals} {reports : Nat} {items : List WorkItem}

@[simp]
theorem limit_of_stopping : signals.limit true reports items = 0 := by
  cases items <;> simp [limit]

theorem stopsWith_of_not_stops (goesOn : ¬signals.Stops) (number : Nat) (item : WorkItem) :
    signals.stopsWith number item = false := by
  apply Bool.eq_false_iff.mpr
  intro stops
  exact goesOn (.inr ⟨number, item, stops⟩)

theorem stopAtStart_of_not_stops (goesOn : ¬signals.Stops) : signals.stopAtStart = false := by
  apply Bool.eq_false_iff.mpr
  intro stops
  exact goesOn (.inl stops)

theorem not_stops_none : ¬none.Stops := by
  rintro (started | ⟨number, item, stops⟩)
  · contradiction
  · contradiction

theorem limit_of_never (never : ∀ number item, signals.stopsWith number item = false) :
    signals.limit false reports items = items.length := by
  induction items generalizing reports with
  | nil => rfl
  | cons item rest ih => simp [limit, never, ih]

end Signals

namespace RunPlan

/-- The state after a candidate was processed and reported, if nothing breaks down. -/
def processed (plan : RunPlan) (state : RunState) (item : WorkItem) : RunState where
  ledger := plan.write state.ledger item
  summary := state.summary.record (plan.outcomeOf item)
  reports := state.reports + 1
  stopping := state.stopping || plan.signals.stopsWith (state.reports + 1) item
  log := state.log ++ plan.entriesOf item

/-- The candidates that a walk from a state starts. -/
def startedFrom (plan : RunPlan) (state : RunState) (items : List WorkItem) : List WorkItem :=
  items.take (plan.signals.limit state.stopping state.reports items)

/-- The state at the end of a walk in which nothing breaks down. -/
def walked (plan : RunPlan) (state : RunState) (items : List WorkItem) : RunState :=
  let last := (plan.startedFrom state items).foldl plan.processed state
  if (plan.startedFrom state items).length < items.length then last.stop else last

/-- Neither a candidate nor the listener of the reports breaks the run down. -/
structure Steady (plan : RunPlan) : Prop where
  candidates : ∀ task, plan.faults.breakdown task = none
  reports : ∀ number, plan.signals.reportBreakdown number = none

theorem Steady.breakdown?_eq_none {plan : RunPlan} (steady : plan.Steady) (item : WorkItem) :
    plan.breakdown? item = none := by
  unfold breakdown?
  cases plan.freshRecord? item with
  | none => rfl
  | some record => exact steady.candidates item.key

section Started

variable {plan : RunPlan} {state : RunState} {item : WorkItem} {rest : List WorkItem}

theorem startedFrom_of_stopping (stopping : state.stopping = true) (items : List WorkItem) :
    plan.startedFrom state items = [] := by
  simp [startedFrom, stopping]

theorem startedFrom_cons (running : state.stopping = false) :
    plan.startedFrom state (item :: rest) =
      item :: plan.startedFrom (plan.processed state item) rest := by
  simp [startedFrom, running, Signals.limit, processed]

theorem walked_cons (running : state.stopping = false) :
    plan.walked state (item :: rest) = plan.walked (plan.processed state item) rest := by
  simp [walked, startedFrom_cons running]

end Started

end RunPlan

namespace RunState

variable {plan : RunPlan} {state final : RunState} {item : WorkItem} {items : List WorkItem}

/-- The state after a candidate that did not break the run down, before progress is reported. -/
theorem advance_of_unbroken (unbroken : plan.breakdown? item = none) :
    state.advance plan item =
      ({ state with
          ledger := plan.write state.ledger item
          summary := state.summary.record (plan.outcomeOf item)
          stopping := state.stopping || plan.signals.stopDuring item.key
          log := state.log ++ plan.entriesOf item }, .ok ()) := by
  simp [advance, logging, RunPlan.processCandidate_result, RunPlan.processCandidate_log, unbroken]

theorem advance_of_broken {error : Breakdown} (broken : plan.breakdown? item = some error) :
    (state.advance plan item).2 = .error error := by
  simp [advance, RunPlan.processCandidate_result, broken]

/-- A candidate that did not break the run down and was reported. -/
theorem report_of_unbroken (state : RunState) (unbroken : plan.breakdown? item = none) :
    (state.advance plan item).1.report plan.signals =
      (plan.processed state item, plan.signals.reportBreakdown (state.reports + 1)) := by
  rw [advance_of_unbroken unbroken]
  simp [report, RunPlan.processed, Signals.stopsWith, Bool.or_assoc]

/-- The step of a walk that starts one more candidate. -/
theorem walk_cons {rest : List WorkItem} (running : state.stopping = false)
    (unbroken : plan.breakdown? item = none) :
    state.walk plan (item :: rest) =
      match plan.signals.reportBreakdown (state.reports + 1) with
      | some error => (plan.processed state item, some error)
      | none => (plan.processed state item).walk plan rest := by
  have reported := report_of_unbroken state unbroken
  simp only [walk, running, Bool.false_eq_true, if_false,
    advance_of_unbroken unbroken] at reported ⊢
  rw [reported]
  cases plan.signals.reportBreakdown (state.reports + 1) <;> rfl

/-- The step of a walk that is broken down by the next candidate. -/
theorem walk_of_broken {error : Breakdown} {rest : List WorkItem}
    (running : state.stopping = false) (broken : plan.breakdown? item = some error) :
    (state.walk plan (item :: rest)).2 = some error := by
  have failed : (state.advance plan item).2 = .error error := advance_of_broken broken
  rcases advanced : state.advance plan item with ⟨worked, result⟩
  rw [advanced] at failed
  simp only at failed
  simp [walk, running, advanced, failed]

theorem walk_of_stopping (stopping : state.stopping = true) :
    state.walk plan items = (plan.walked state items, none) := by
  cases items <;> simp [walk, stopping, RunPlan.walked, RunPlan.startedFrom_of_stopping]

/-- A walk that ends without a breakdown processes the candidates that it starts. -/
theorem walk_eq (ended : state.walk plan items = (final, none)) :
    final = plan.walked state items := by
  induction items generalizing state with
  | nil =>
      simp only [walk, Prod.mk.injEq, and_true] at ended
      simp [RunPlan.walked, RunPlan.startedFrom, ended]
  | cons item rest ih =>
      cases stopping : state.stopping with
      | true => simpa [walk_of_stopping stopping] using ended.symm
      | false =>
          cases broken : plan.breakdown? item with
          | some error =>
              -- The walk would have ended with this breakdown.
              have failed : (state.walk plan (item :: rest)).2 = some error :=
                walk_of_broken stopping broken
              rw [ended] at failed
              contradiction
          | none =>
              rw [walk_cons stopping broken] at ended
              split at ended
              · simp at ended
              · rw [RunPlan.walked_cons stopping]
                exact ih ended

/-- A walk in which nothing breaks down ends. -/
theorem walk_of_steady (steady : plan.Steady) :
    state.walk plan items = (plan.walked state items, none) := by
  induction items generalizing state with
  | nil => simp [walk, RunPlan.walked, RunPlan.startedFrom]
  | cons item rest ih =>
      cases stopping : state.stopping with
      | true => exact walk_of_stopping stopping
      | false =>
          rw [walk_cons stopping (steady.breakdown?_eq_none item), steady.reports,
            RunPlan.walked_cons stopping]
          exact ih

@[simp]
theorem stop_ledger : state.stop.ledger = state.ledger := rfl

@[simp]
theorem stop_reports : state.stop.reports = state.reports := rfl

@[simp]
theorem stop_summary : state.stop.summary = state.summary.cancel := rfl

@[simp]
theorem stop_stopping : state.stop.stopping = state.stopping := rfl

end RunState

namespace RunSummary

/-- The summary after more candidates with given outcomes. -/
def tally (summary : RunSummary) (outcomes : List Outcome) : RunSummary :=
  outcomes.foldl record summary

theorem tally_candidates (summary : RunSummary) (outcomes : List Outcome) :
    (summary.tally outcomes).candidates = summary.candidates + outcomes.length := by
  induction outcomes generalizing summary with
  | nil => rfl
  | cons outcome rest ih =>
      simp only [tally, List.foldl_cons, List.length_cons] at ih ⊢
      rw [ih]
      dsimp only [record]
      omega

theorem tally_cancelled (summary : RunSummary) (outcomes : List Outcome) :
    (summary.tally outcomes).cancelled = summary.cancelled := by
  induction outcomes generalizing summary with
  | nil => rfl
  | cons outcome rest ih => exact ih (summary.record outcome)

end RunSummary

namespace RunPlan

variable {plan : RunPlan} {state : RunState} {items : List WorkItem}

theorem foldl_processed_ledger :
    (items.foldl plan.processed state).ledger = items.foldl plan.write state.ledger := by
  induction items generalizing state with
  | nil => rfl
  | cons item rest ih => exact ih

theorem foldl_processed_summary :
    (items.foldl plan.processed state).summary =
      state.summary.tally (items.map plan.outcomeOf) := by
  induction items generalizing state with
  | nil => rfl
  | cons item rest ih => exact ih

theorem foldl_processed_reports :
    (items.foldl plan.processed state).reports = state.reports + items.length := by
  induction items generalizing state with
  | nil => rfl
  | cons item rest ih =>
      rw [List.foldl_cons, ih, List.length_cons]
      dsimp only [processed]
      omega

theorem foldl_processed_stopping
    (never : ∀ number item, plan.signals.stopsWith number item = false) :
    (items.foldl plan.processed state).stopping = state.stopping := by
  induction items generalizing state with
  | nil => rfl
  | cons item rest ih => simp [ih, processed, never]

theorem walked_ledger :
    (plan.walked state items).ledger =
      (plan.startedFrom state items).foldl plan.write state.ledger := by
  unfold walked
  split <;> simp [foldl_processed_ledger]

theorem walked_stopping :
    (plan.walked state items).stopping =
      ((plan.startedFrom state items).foldl plan.processed state).stopping := by
  unfold walked
  split <;> simp

theorem walked_reports :
    (plan.walked state items).reports =
      state.reports + (plan.startedFrom state items).length := by
  unfold walked
  split <;> simp [foldl_processed_reports]

/-- The summary at the end of a walk says whether candidates were left. -/
theorem walked_summary (fresh : state.summary.cancelled = false) :
    (plan.walked state items).summary =
      { state.summary.tally ((plan.startedFrom state items).map plan.outcomeOf) with
        cancelled := decide ((plan.startedFrom state items).length < items.length) } := by
  have keeps := RunSummary.tally_cancelled state.summary
    ((plan.startedFrom state items).map plan.outcomeOf)
  unfold walked
  split
  · rename_i left
    simp [foldl_processed_summary, RunSummary.cancel, left]
  · rename_i all
    simp only [foldl_processed_summary, all, decide_false]
    rw [← fresh, ← keeps]

end RunPlan

end DeliveryCycle
