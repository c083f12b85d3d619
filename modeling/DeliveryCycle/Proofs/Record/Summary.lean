import DeliveryCycle.Api.CycleTimes
import DeliveryCycle.Proofs.Record.Statistics

/-!
# Summaries of records

A summary has nothing of the order of the records: sums do not, and neither do ascending orders.
The one pass that gathers the values of all metrics comes to the same as one pass for each metric
over the records that have it (`gathered_gather`), so that the others might as well not be there.

The listing of a ledger leaves open in which order records of equal tasks come. What is read of a
summary does not depend on it (`showSummary_eq_of_perm`).
-/

namespace DeliveryCycle

section Perm

variable {values reordered : List Int}

theorem Statistics.average_eq_of_perm (perm : values.Perm reordered) :
    average values = average reordered := by
  have sums : values.foldr (· + ·) 0 = reordered.foldr (· + ·) 0 := perm.sum_eq
  rw [average, average, sums, perm.length_eq]

theorem MetricStatistics.ofValues_eq_of_perm (perm : values.Perm reordered) :
    ofValues values = ofValues reordered := by
  by_cases empty : values = []
  · subst empty
    rw [perm.nil_eq]
  · have nonempty : reordered ≠ [] := by
      rintro rfl
      exact empty perm.eq_nil
    rw [Statistics.ofValues_eq empty, Statistics.ofValues_eq nonempty,
      Statistics.average_eq_of_perm perm, Statistics.ascending_eq_of_perm perm, perm.length_eq]

end Perm

/-- The metrics of a record. -/
inductive Metric where
  | planning
  | coding
  | deploying
  | total

namespace Metric

/-- The value of a metric, which a record may not have. -/
def value : Metric → Metrics → Option Int
  | planning, metrics => metrics.planning
  | coding, metrics => metrics.coding
  | deploying, metrics => metrics.deploying
  | total, metrics => metrics.total

def gathered : Metric → MetricValues → List Int
  | planning, values => values.planning
  | coding, values => values.coding
  | deploying, values => values.deploying
  | total, values => values.total

def statistics : Metric → CycleSummary → MetricStatistics
  | planning, summary => summary.planning
  | coding, summary => summary.coding
  | deploying, summary => summary.deploying
  | total, summary => summary.total

variable (metric : Metric)

@[simp] theorem gathered_empty : metric.gathered .empty = [] := by
  cases metric <;> rfl

@[simp] theorem gathered_add (values : MetricValues) (metrics : Metrics) :
    metric.gathered (values.add metrics) =
      (metric.value metrics).toList ++ metric.gathered values := by
  cases metric <;> rfl

/-- The values of the records that have a metric. -/
def valuesOf (records : List Measured) : List Int :=
  records.filterMap fun record => metric.value record.metrics

theorem gathered_gather (records : List Measured) :
    metric.gathered (MetricValues.gather records) = metric.valuesOf records := by
  induction records with
  | nil => exact metric.gathered_empty
  | cons record rest induction =>
      have step : MetricValues.gather (record :: rest) =
          (MetricValues.gather rest).add record.metrics := rfl
      rw [step, gathered_add, induction]
      unfold valuesOf
      cases missing : metric.value record.metrics <;> simp [missing]

theorem statistics_ofRecords (records : List Measured) :
    metric.statistics (.ofRecords records) = .ofValues (metric.valuesOf records) := by
  rw [← gathered_gather]
  cases metric <;> rfl

variable {records inserted larger reordered : List Measured}

theorem statistics_eq_of_perm (perm : records.Perm reordered) :
    metric.statistics (.ofRecords records) = metric.statistics (.ofRecords reordered) := by
  rw [statistics_ofRecords, statistics_ofRecords]
  exact MetricStatistics.ofValues_eq_of_perm (perm.filterMap _)

theorem statistics_eq_of_inserted (perm : larger.Perm (records ++ inserted))
    (missing : ∀ record ∈ inserted, metric.value record.metrics = none) :
    metric.statistics (.ofRecords larger) = metric.statistics (.ofRecords records) := by
  have without : metric.valuesOf inserted = [] := List.filterMap_eq_nil_iff.mpr missing
  have appended : metric.valuesOf (records ++ inserted) = metric.valuesOf records := by
    unfold valuesOf at *
    rw [List.filterMap_append, without, List.append_nil]
  rw [metric.statistics_eq_of_perm perm, statistics_ofRecords, statistics_ofRecords, appended]

end Metric

namespace MetricStatistics

/-- A check lets statistics through as they are or not at all. -/
theorem eq_of_checked {statistics accepted : MetricStatistics}
    (checked : statistics.checked = .ok accepted) : accepted = statistics := by
  unfold MetricStatistics.checked at checked
  dsimp only at checked
  split at checked
  · contradiction
  · split at checked
    · exact (Except.ok.inj checked).symm
    · contradiction

end MetricStatistics

namespace CycleSummary

variable {records reordered : List Measured}

theorem eq_of_checked {summary accepted : CycleSummary} (checked : summary.checked = .ok accepted) :
    accepted = summary := by
  unfold CycleSummary.checked at checked
  rcases planned : summary.planning.checked with error | planning
  · simp [planned, bind, Except.bind] at checked
  rcases coded : summary.coding.checked with error | coding
  · simp [planned, coded, bind, Except.bind] at checked
  rcases shipped : summary.deploying.checked with error | deploying
  · simp [planned, coded, shipped, bind, Except.bind] at checked
  rcases passed : summary.total.checked with error | total
  · simp [planned, coded, shipped, passed, bind, Except.bind] at checked
  simp only [planned, coded, shipped, passed, bind, Except.bind, pure, Except.pure,
    Except.ok.injEq] at checked
  rw [← checked, MetricStatistics.eq_of_checked planned, MetricStatistics.eq_of_checked coded,
    MetricStatistics.eq_of_checked shipped, MetricStatistics.eq_of_checked passed]

/-- A summary is its two counts and the statistics of its metrics. -/
theorem eq_of_statistics {summary other : CycleSummary} (records : summary.records = other.records)
    (withDeployment : summary.withDeployment = other.withDeployment)
    (statistics : ∀ metric : Metric, metric.statistics summary = metric.statistics other) :
    summary = other := by
  cases summary
  cases other
  rw [mk.injEq]
  exact ⟨records, withDeployment, statistics .planning, statistics .coding, statistics .deploying,
    statistics .total⟩

theorem withDeployment_ofRecords (records : List Measured) :
    (ofRecords records).withDeployment = records.countP fun record => record.deploymentId ≠ "" :=
  List.countP_eq_length_filter.symm

theorem ofRecords_eq_of_perm (perm : records.Perm reordered) :
    ofRecords records = ofRecords reordered := by
  apply eq_of_statistics
  · exact perm.length_eq
  · rw [withDeployment_ofRecords, withDeployment_ofRecords, perm.countP_eq]
  · intro metric
    exact metric.statistics_eq_of_perm perm

end CycleSummary

namespace Ledger

variable {ledger stored : Ledger}

theorem listing_perm (perm : ledger.Perm stored) (connectionId : Option Int) :
    (ledger.listing connectionId).Perm (stored.listing connectionId) := by
  have chosen : (ledger.ofConnection connectionId).Perm (stored.ofConnection connectionId) := by
    cases connectionId with
    | none => exact perm
    | some connectionId => exact perm.filter _
  calc
    (ledger.listing connectionId).Perm (ledger.ofConnection connectionId) := List.mergeSort_perm _ _
    _ |>.Perm (stored.ofConnection connectionId) := chosen
    _ |>.Perm (stored.listing connectionId) := (List.mergeSort_perm _ _).symm

end Ledger

namespace Api

/-- A summary does not tell in which order its records are stored. -/
theorem showSummary_eq_of_perm {ledger stored : Ledger} (perm : ledger.Perm stored)
    (request : Request) : showSummary ledger request = showSummary stored request := by
  unfold showSummary
  split
  · rfl
  · rename_i connectionId read
    have listed : CycleSummary.ofRecords ((ledger.listing connectionId).map (·.measured)) =
        CycleSummary.ofRecords ((stored.listing connectionId).map (·.measured)) :=
      CycleSummary.ofRecords_eq_of_perm ((Ledger.listing_perm perm connectionId).map _)
    cases connectionId with
    | none => simp [Ledger.list, Ledger.limited, Except.mapError, bind, Except.bind, pure,
        Except.pure, listed]
    | some number =>
        cases checked : checkInteger number <;>
          simp [Ledger.list, Ledger.limited, Except.mapError, bind, Except.bind, pure, Except.pure,
            checked, listed]

end Api

/-- Summaries do not depend on the order of the records. The statistics of a metric are those of the
records that have it, however many others there are and wherever they stand. All records are
counted, and all with a deployment. -/
theorem summaries_ignore_order :
    (∀ records reordered : List Measured, records.Perm reordered →
      CycleSummary.ofRecords records = CycleSummary.ofRecords reordered) ∧
    (∀ (metric : Metric) (records inserted larger : List Measured),
      larger.Perm (records ++ inserted) →
      (∀ record ∈ inserted, metric.value record.metrics = none) →
      metric.statistics (.ofRecords larger) = metric.statistics (.ofRecords records)) ∧
    (∀ (metric : Metric) (records : List Measured),
      metric.statistics (.ofRecords records) =
        .ofValues (records.filterMap fun record => metric.value record.metrics)) ∧
    (∀ records : List Measured, (CycleSummary.ofRecords records).records = records.length ∧
      (CycleSummary.ofRecords records).withDeployment =
        records.countP fun record => record.deploymentId ≠ "") ∧
    ∀ summary accepted : CycleSummary, summary.checked = .ok accepted → accepted = summary := by
  refine ⟨?_, ?_, ?_, ?_, ?_⟩
  · intro records reordered perm
    exact CycleSummary.ofRecords_eq_of_perm perm
  · intro metric records inserted larger perm missing
    exact metric.statistics_eq_of_inserted perm missing
  · intro metric records
    exact metric.statistics_ofRecords records
  · intro records
    exact ⟨rfl, CycleSummary.withDeployment_ofRecords records⟩
  · intro summary accepted checked
    exact CycleSummary.eq_of_checked checked

/-- The record between the two others has no deployment. -/
theorem summaries_ignore_order_of_three :
    let first : Measured := ⟨"D1", ⟨some 10, some 20, some 30, some 60⟩⟩
    let unshipped : Measured := ⟨"", ⟨some 20, some 60, none, none⟩⟩
    let second : Measured := ⟨"D2", ⟨some 30, some 40, some 10, some 80⟩⟩
    let summary := CycleSummary.ofRecords [first, unshipped, second]
    summary = CycleSummary.ofRecords [unshipped, second, first] ∧
    Metric.deploying.statistics summary =
      Metric.deploying.statistics (.ofRecords [first, second]) ∧
    Metric.planning.statistics summary = .ofValues [10, 20, 30] ∧
    summary.records = 3 ∧ summary.withDeployment = 2 ∧
    (∀ accepted, summary.checked = .ok accepted → accepted = summary) := by
  intro first unshipped second summary
  rcases summaries_ignore_order with ⟨reordered, inserted, independent, counted, checked⟩
  refine ⟨?_, ?_, ?_, ?_, ?_, ?_⟩
  · exact reordered _ _ (by decide)
  · exact inserted .deploying [first, second] [unshipped] _ (by decide) (by decide)
  · exact independent .planning [first, unshipped, second]
  · exact (counted [first, unshipped, second]).1
  · exact (counted [first, unshipped, second]).2
  · exact checked summary

end DeliveryCycle
