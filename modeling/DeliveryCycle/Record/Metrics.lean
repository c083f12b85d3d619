import DeliveryCycle.Time.Span

/-!
# The four metrics

A work item passes four milestones: it is created, a first commit is authored, its pull request
is merged, and a deployment ships it. Four spans between them are measured in whole minutes, each
on its own. A span with a missing end is not measured. A negative span is kept; it shows that
clocks disagree or that events came out of order.
-/

namespace DeliveryCycle

/-- The times at which a work item passed its milestones, as far as it did. -/
structure Milestones (Point : Type) where
  created : Point
  firstCommit : Option Point
  merged : Option Point
  deployed : Option Point
deriving Repr

structure Metrics where
  /-- From the creation of the task to the first commit. -/
  planning : Option Int
  /-- From the first commit to the merge. -/
  coding : Option Int
  /-- From the merge to the deployment. -/
  deploying : Option Int
  /-- From the creation of the task to the deployment. -/
  total : Option Int
deriving DecidableEq, Repr, Inhabited

/-- The metrics by the names of their columns, in the order in which they are reported. -/
def Metrics.columns : List (String × (Metrics → Option Int)) :=
  [("planning_time", planning), ("code_time", coding), ("deploy_time", deploying),
    ("total_cycle_time", total)]

/-- The span between two times if both are there. -/
def Time.spanBetween {Point : Type} [Time.Clock Point] :
    (start finish : Option Point) → Except Time.SpanError (Option Int)
  | some start, some finish => (Time.Clock.minutesBetween start finish).map some
  | _, _ => .ok none

/-- The metrics of a work item; the first span that cannot be counted decides the error. -/
def Milestones.measure {Point : Type} [Time.Clock Point] (milestones : Milestones Point) :
    Except Time.SpanError Metrics := do
  let planning ← Time.spanBetween (some milestones.created) milestones.firstCommit
  let coding ← Time.spanBetween milestones.firstCommit milestones.merged
  let deploying ← Time.spanBetween milestones.merged milestones.deployed
  let total ← Time.spanBetween (some milestones.created) milestones.deployed
  return { planning, coding, deploying, total }

def Moment.span : (start finish : Option Moment) → Option Int
  | some start, some finish => some (start.minutesTo finish)
  | _, _ => none

/-- The metrics between moments, which can always be counted. -/
def Milestones.metrics (milestones : Milestones Moment) : Metrics where
  planning := Moment.span (some milestones.created) milestones.firstCommit
  coding := Moment.span milestones.firstCommit milestones.merged
  deploying := Moment.span milestones.merged milestones.deployed
  total := Moment.span (some milestones.created) milestones.deployed

theorem Time.spanBetween_moment (start finish : Option Moment) :
    Time.spanBetween start finish = .ok (Moment.span start finish) := by
  cases start <;> cases finish <;> rfl

theorem Milestones.measure_moment (milestones : Milestones Moment) :
    milestones.measure = .ok milestones.metrics := by
  simp only [measure, Time.spanBetween_moment]
  rfl

end DeliveryCycle
