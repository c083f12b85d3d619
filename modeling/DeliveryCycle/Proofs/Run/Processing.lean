import DeliveryCycle.Run.Calculation

/-!
# What one candidate contributes

What a run does with a candidate depends on the collected rows and on the faults, never on the
ledger. So each candidate of a plan has an outcome, log entries, and a fresh record unless a fault
hits it or it has no pull request, and processing it writes exactly this record. The main statement
is `processCandidate_result`; it also says that nothing is left of a record that was written before
the storage failed.
-/

namespace DeliveryCycle

/-- No failure of the storage hits a task, and it is not taken for one without a pull request. -/
def Faults.Spares (faults : Faults) (task : Int × String) : Prop :=
  faults.resolving task = .none ∧ faults.overlooked task = false ∧
    faults.beforeWrite task = .none ∧ faults.afterWrite task = .none

instance (faults : Faults) (task : Int × String) : Decidable (faults.Spares task) :=
  inferInstanceAs (Decidable (_ ∧ _))

theorem task_of_resolve {strategies : Strategies} {collected : Collected} {project : String}
    {item : WorkItem} {correlation : Correlation Moment}
    (resolved : (resolve strategies collected project item).correlation = some correlation) :
    correlation.momentRecord.task = item.key := by
  unfold resolve at resolved
  split at resolved
  · contradiction
  · simp only [Option.some.injEq] at resolved
    subst correlation
    rfl

/-- How the writing of a record ends does not depend on the ledger. -/
theorem writeRecord_fst_eq (faults : Faults) (first second : Ledger) (item : WorkItem)
    (correlation : Correlation Moment) :
    (writeRecord faults first item correlation).1 =
      (writeRecord faults second item correlation).1 := by
  unfold writeRecord
  cases faults.beforeWrite item.key with
  | some failure => rfl
  | none =>
      cases faults.afterWrite item.key with
      | some failure => rfl
      | none => cases faults.breakdown item.key <;> rfl

namespace RunPlan

/-- What resolving a candidate finds in the collected rows. -/
def correlation? (plan : RunPlan) (item : WorkItem) : Option (Correlation Moment) :=
  (resolve .usual plan.collected plan.project item).correlation

/-- The record that is written for a candidate, if any. -/
def freshRecord? (plan : RunPlan) (item : WorkItem) : Option (CycleRecord Moment) :=
  if plan.faults.Spares item.key then (plan.correlation? item).map (·.momentRecord) else none

/-- The ledger after the work on a candidate that did not break down. -/
def write (plan : RunPlan) (ledger : Ledger) (item : WorkItem) : Ledger :=
  match plan.freshRecord? item with
  | some record => ledger.put record
  | none => ledger

/-- The outcome of a candidate on which the work does not break down. -/
def outcomeOf (plan : RunPlan) (item : WorkItem) : Outcome :=
  if (plan.faults.resolving item.key).isSome then .failed
  else if plan.faults.overlooked item.key then .unmatched
  else
    match plan.correlation? item with
    | none => .unmatched
    | some correlation => if plan.faults.Spares item.key then correlation.outcome else .failed

/-- The breakdown on a candidate, which comes after its record was written. -/
def breakdown? (plan : RunPlan) (item : WorkItem) : Option Breakdown :=
  (plan.freshRecord? item).bind fun _ => plan.faults.breakdown item.key

/-- What processing a candidate writes to the log. -/
def entriesOf (plan : RunPlan) (item : WorkItem) : List Log.Entry :=
  (processCandidate plan.faults plan.collected plan.project [] item).log

variable {plan : RunPlan} {item : WorkItem}

/-- A fresh record is the one of a correlation, and no fault hits its candidate. -/
theorem freshRecord?_eq_some_iff {record : CycleRecord Moment} :
    plan.freshRecord? item = some record ↔
      plan.faults.Spares item.key ∧
        ∃ correlation, plan.correlation? item = some correlation ∧
          correlation.momentRecord = record := by
  unfold freshRecord?
  by_cases spared : plan.faults.Spares item.key
  · simp [spared]
  · simp [spared]

theorem task_of_freshRecord? {record : CycleRecord Moment}
    (fresh : plan.freshRecord? item = some record) : record.task = item.key := by
  rcases freshRecord?_eq_some_iff.mp fresh with ⟨_, correlation, resolved, rfl⟩
  exact task_of_resolve resolved

/-- A candidate either breaks the run down, or has its outcome and writes its fresh record. -/
theorem processCandidate_result (plan : RunPlan) (ledger : Ledger) (item : WorkItem) :
    (processCandidate plan.faults plan.collected plan.project ledger item).result =
      match plan.breakdown? item with
      | some error => .error error
      | none => .ok (plan.outcomeOf item, plan.write ledger item) := by
  unfold processCandidate workOn write breakdown? outcomeOf freshRecord? correlation?
  cases resolving : plan.faults.resolving item.key with
  | some failure => simp [CandidateWork.close, Faults.Spares, resolving]
  | none =>
      cases overlooked : plan.faults.overlooked item.key with
      | true => simp [CandidateWork.close, Faults.Spares, overlooked]
      | false =>
          cases found : (resolve .usual plan.collected plan.project item).correlation with
          | none => simp [CandidateWork.close, found]
          | some correlation =>
              cases before : plan.faults.beforeWrite item.key with
              | some failure =>
                  simp [CandidateWork.close, Faults.Spares, writeRecord, found, before]
              | none =>
                  cases after : plan.faults.afterWrite item.key with
                  | some failure =>
                      simp [CandidateWork.close, Faults.Spares, writeRecord, found, before,
                        after]
                  | none =>
                      cases breakdown : plan.faults.breakdown item.key <;>
                        simp [CandidateWork.close, Faults.Spares, writeRecord, found, resolving,
                          overlooked, before, after, breakdown]

/-- What goes to the log does not depend on the ledger. -/
theorem processCandidate_log (plan : RunPlan) (ledger : Ledger) (item : WorkItem) :
    (processCandidate plan.faults plan.collected plan.project ledger item).log =
      plan.entriesOf item := by
  unfold entriesOf processCandidate workOn
  cases plan.faults.resolving item.key with
  | some failure => rfl
  | none =>
      cases plan.faults.overlooked item.key with
      | true => rfl
      | false =>
          simp only [Bool.false_eq_true, if_false]
          cases (resolve .usual plan.collected plan.project item).correlation with
          | none => rfl
          | some correlation =>
              have sameEnd := writeRecord_fst_eq plan.faults ledger [] item correlation
              simp only [CandidateWork.close, sameEnd]
              split <;> rfl

end RunPlan

end DeliveryCycle
