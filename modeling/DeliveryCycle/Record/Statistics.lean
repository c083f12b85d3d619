import DeliveryCycle.Json.Value
import DeliveryCycle.Record.Correlation
import DeliveryCycle.Validation.Issue

/-!
# Statistics over records

The values of all metrics are gathered in one pass over the records. Each metric is then summarised
over the records that have it: how many there are, their average, their median and the value below
which nine of ten lie. The latter is the value at the position `count * 0.9` of the ascending order,
the product taken in double precision and cut off. A record counts as deployed if its deployment is
not the empty text.

Statistics of integers that are beyond all numbers of double precision can be infinite. `checked`
lets only finite statistics through. An infinite quotient, as an average or half a sum, ends the
check; of all other numbers it finds those that are infinite.
-/

namespace DeliveryCycle

/-- What a summary needs to know of a record. -/
structure Measured where
  deploymentId : String
  metrics : Metrics
deriving DecidableEq, Repr

def CycleRecord.measured {Point : Type} (record : CycleRecord Point) : Measured :=
  ⟨record.deploymentId, record.metrics⟩

/-- The statistics of one metric; without values only the count is there. -/
structure MetricStatistics where
  count : Nat
  average : Option Binary64
  median : Option Binary64
  ninetieth : Option Binary64
deriving DecidableEq, Repr, Inhabited

/-- The statistics of all metrics over a list of records. -/
structure CycleSummary where
  records : Nat
  withDeployment : Nat
  planning : MetricStatistics
  coding : MetricStatistics
  deploying : MetricStatistics
  total : MetricStatistics
deriving DecidableEq, Repr

namespace Statistics

def ascending (values : List Int) : List Int := values.mergeSort fun left right => left ≤ right

/-- The middle value of an ascending list, or half the sum of the two middle ones. -/
def median (sorted : List Int) : Binary64 :=
  let half := sorted.length / 2
  if sorted.length % 2 = 1 then .ofInt (sorted.getD half 0)
  else .ofRatio (sorted.getD (half - 1) 0 + sorted.getD half 0) 2

/-- The sum of the values divided by their number, rounded once. -/
def average (values : List Int) : Binary64 :=
  .ofRatio (values.foldr (· + ·) 0) values.length

def nineTenths : Binary64 := .ofRatio 9 10

/-- The position `count * 0.9`. -/
def ninetiethRank (count : Nat) : Nat := ((Binary64.ofInt count).mul nineTenths).truncate.toNat

/-- The value at the position `count * 0.9` of an ascending list, or else its median. -/
def ninetieth (sorted : List Int) : Binary64 :=
  match sorted[ninetiethRank sorted.length]? with
  | some value => .ofInt value
  | none => median sorted

end Statistics

def MetricStatistics.ofValues (values : List Int) : MetricStatistics :=
  match values with
  | [] => ⟨0, none, none, none⟩
  | _ =>
      let sorted := Statistics.ascending values
      ⟨values.length, some (Statistics.average values), some (Statistics.median sorted),
        some (Statistics.ninetieth sorted)⟩

/-- The values of each metric over some records. -/
structure MetricValues where
  planning : List Int
  coding : List Int
  deploying : List Int
  total : List Int
deriving DecidableEq, Repr

namespace MetricValues

def empty : MetricValues := ⟨[], [], [], []⟩

/-- The metrics that a record has join the values; one that it does not have is skipped. -/
def add (values : MetricValues) (metrics : Metrics) : MetricValues where
  planning := metrics.planning.toList ++ values.planning
  coding := metrics.coding.toList ++ values.coding
  deploying := metrics.deploying.toList ++ values.deploying
  total := metrics.total.toList ++ values.total

/-- The values of all metrics, gathered in one pass over the records. -/
def gather (records : List Measured) : MetricValues :=
  records.foldr (fun record values => values.add record.metrics) empty

end MetricValues

def CycleSummary.ofRecords (records : List Measured) : CycleSummary :=
  let values := MetricValues.gather records
  { records := records.length
    withDeployment := (records.filter fun record => record.deploymentId ≠ "").length
    planning := .ofValues values.planning
    coding := .ofValues values.coding
    deploying := .ofValues values.deploying
    total := .ofValues values.total }

inductive StatisticsError where
  | quotientTooLarge
  /-- Numbers that are not finite, by their names. -/
  | refused (issues : List Issue)
deriving DecidableEq, Repr

def StatisticsError.message : StatisticsError → String
  | .quotientTooLarge => "integer division result too large for a float"
  | .refused issues => ", ".intercalate (issues.map fun issue => issue.kind.message)

namespace MetricStatistics

/-- Whether a number is there and infinite. -/
def isInfinite (number : Option Binary64) : Bool := number.any fun value => !value.isFinite

/-- Whether the median is half the sum of two values. -/
def hasMiddlePair (statistics : MetricStatistics) : Bool := statistics.count % 2 = 0

/-- Statistics that are finite. -/
def checked (statistics : MetricStatistics) : Except StatisticsError MetricStatistics :=
  let issues := [("median_minutes", statistics.median), ("p90_minutes", statistics.ninetieth)]
    |>.filterMap fun (name, number) =>
      if isInfinite number then some (⟨.realRequired, [name]⟩ : Issue) else none
  if isInfinite statistics.average || (statistics.hasMiddlePair && isInfinite statistics.median)
  then .error .quotientTooLarge
  else if issues.isEmpty then .ok statistics
  else .error (.refused issues)

end MetricStatistics

def CycleSummary.checked (summary : CycleSummary) : Except StatisticsError CycleSummary := do
  return {
    summary with
    planning := ← summary.planning.checked
    coding := ← summary.coding.checked
    deploying := ← summary.deploying.checked
    total := ← summary.total.checked }

def MetricStatistics.toJson (statistics : MetricStatistics) : Json :=
  .object [("count", .int statistics.count), ("average_minutes", .ofReal? statistics.average),
    ("median_minutes", .ofReal? statistics.median),
    ("p90_minutes", .ofReal? statistics.ninetieth)]

def CycleSummary.toJson (summary : CycleSummary) : Json :=
  .object [("records", .int summary.records), ("with_deployment", .int summary.withDeployment),
    ("planning_time", summary.planning.toJson), ("code_time", summary.coding.toJson),
    ("deploy_time", summary.deploying.toJson), ("total_cycle_time", summary.total.toJson)]

end DeliveryCycle
