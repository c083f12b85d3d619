import DeliveryCycle.Proofs.Record.Acceptance
import DeliveryCycle.Proofs.Time.Order
import Mathlib.Algebra.Order.Ring.Abs
import Mathlib.Tactic.Linarith

/-!
# Spans between milestones

The way from the creation of a task to its deployment is cut into three parts at the first commit
and at the merge. Each part and the whole lose their fractions on their own, so the minutes of the
parts need not add up to the minutes of the whole. The bound on the difference is two and not three,
because parts that lose nearly three minutes in one direction all point in this direction, and the
whole, which then points there as well, loses in the same direction.

A deployment that finished earlier is not further away, neither from the merge nor from the
creation, by the order that whole minutes keep.
-/

namespace DeliveryCycle

open Number

namespace Time

/-- What a division cuts off is less than the unit and points where the divided number points. -/
theorem exists_rest (ticks : Int) {unit : Int} (unitPos : 0 < unit) :
    ∃ rest, unit * ticks.tdiv unit + rest = ticks ∧ -unit < rest ∧ rest < unit ∧
      (rest < 0 → ticks < 0) ∧ (0 < rest → 0 < ticks) := by
  refine ⟨ticks.tmod unit, Int.mul_tdiv_add_tmod ticks unit, Int.lt_tmod_of_pos ticks unitPos,
    Int.tmod_lt_of_pos ticks unitPos, ?_, ?_⟩
  · intro negative
    by_contra nonneg
    have := Int.tmod_nonneg unit (Int.not_lt.mp nonneg)
    omega
  · intro positive
    by_contra nonpos
    have := Int.tmod_nonneg unit (Int.neg_nonneg.mpr (Int.not_lt.mp nonpos))
    rw [Int.neg_tmod] at this
    omega

/-- A sum of three that is divided differs by at most two from the sum of what is divided. -/
theorem tdiv_add_near (first second third : Int) {unit : Int} (unitPos : 0 < unit) :
    |(first + second + third).tdiv unit -
      (first.tdiv unit + second.tdiv unit + third.tdiv unit)| ≤ 2 := by
  rcases exists_rest first unitPos with ⟨firstRest, firstParts, _, _, firstNeg, firstPos⟩
  rcases exists_rest second unitPos with ⟨secondRest, secondParts, _, _, secondNeg, secondPos⟩
  rcases exists_rest third unitPos with ⟨thirdRest, thirdParts, _, _, thirdNeg, thirdPos⟩
  rcases exists_rest (first + second + third) unitPos with ⟨rest, parts, _, _, neg, pos⟩
  generalize (first + second + third).tdiv unit = whole at *
  generalize first.tdiv unit = firstWhole at *
  generalize second.tdiv unit = secondWhole at *
  generalize third.tdiv unit = thirdWhole at *
  have difference : unit * (whole - (firstWhole + secondWhole + thirdWhole)) =
      firstRest + secondRest + thirdRest - rest := by
    linarith
  generalize whole - (firstWhole + secondWhole + thirdWhole) = excess at *
  -- A difference of three needs a rest of the whole that points against the rests of all parts.
  rw [abs_le]
  constructor
  · by_contra below
    have three : unit * excess ≤ unit * (-3) :=
      Int.mul_le_mul_of_nonneg_left (by omega) unitPos.le
    omega
  · by_contra above
    have three : unit * 3 ≤ unit * excess :=
      Int.mul_le_mul_of_nonneg_left (by omega) unitPos.le
    omega

theorem wholeMinutes_add_near {first second third : Int}
    (firstShort : first.natAbs ≤ twoPow 28 * ticksPerMinute)
    (secondShort : second.natAbs ≤ twoPow 28 * ticksPerMinute)
    (thirdShort : third.natAbs ≤ twoPow 28 * ticksPerMinute)
    (short : (first + second + third).natAbs ≤ twoPow 28 * ticksPerMinute) :
    |wholeMinutes (first + second + third) -
      (wholeMinutes first + wholeMinutes second + wholeMinutes third)| ≤ 2 := by
  rw [wholeMinutes_eq_tdiv firstShort, wholeMinutes_eq_tdiv secondShort,
    wholeMinutes_eq_tdiv thirdShort, wholeMinutes_eq_tdiv short]
  exact tdiv_add_near _ _ _ (by decide)

section Clock

variable {Point : Type} [Clock Point] {start finish : Option Point} {span : Option Int}

/-- A span that is not refused is measured if both of its ends are there. -/
theorem spanBetween_isSome_iff (measured : spanBetween start finish = .ok span) :
    span.isSome ↔ start.isSome ∧ finish.isSome := by
  cases start with
  | none =>
      cases Except.ok.inj measured
      simp
  | some start =>
      cases finish with
      | none =>
          cases Except.ok.inj measured
          simp
      | some finish =>
          unfold spanBetween at measured
          cases counted : Clock.minutesBetween start finish with
          | error error => simp [counted, Except.map] at measured
          | ok minutes =>
              simp only [counted, Except.map, Except.ok.injEq] at measured
              simp [← measured]

end Clock

end Time

namespace Timestamp

open Time

variable {start : Option Timestamp} {earlier later : Timestamp}

theorem OfOneKind.mono {part whole : List Timestamp} (kind : OfOneKind whole)
    (subset : part ⊆ whole) : OfOneKind part := by
  intro one oneMem other otherMem
  exact kind one (subset oneMem) other (subset otherMem)

theorem AreDates.mono {part whole : List Timestamp} (dates : AreDates whole)
    (subset : part ⊆ whole) : AreDates part :=
  ⟨fun timestamp mem => dates.dates timestamp (subset mem), dates.kind.mono subset⟩

theorem spanBetween_eq (start finish : Timestamp) :
    spanBetween (some start) (some finish) = (start.minutesTo finish).map some := rfl

/-- Timestamps of one kind have a span if they are there. -/
theorem exists_spanBetween {finish : Option Timestamp}
    (kind : OfOneKind (start.toList ++ finish.toList)) :
    ∃ span, spanBetween start finish = .ok span := by
  cases start with
  | none => exact ⟨none, rfl⟩
  | some start =>
      cases finish with
      | none => exact ⟨none, rfl⟩
      | some finish =>
          rw [spanBetween_eq, minutesTo_of_sameKind (kind start (by simp) finish (by simp))]
          exact ⟨_, rfl⟩

/-- A span to a later end is not shorter. -/
theorem spanBetween_mono_finish {fewer more : Option Int}
    (dates : AreDates (start.toList ++ [earlier, later])) (order : earlier.NoLater later)
    (toEarlier : spanBetween start (some earlier) = .ok fewer)
    (toLater : spanBetween start (some later) = .ok more) : Option.Rel (· ≤ ·) fewer more := by
  cases start with
  | none =>
      cases Except.ok.inj toEarlier
      cases Except.ok.inj toLater
      exact .none
  | some start =>
      rcases minutesTo_mono_finish dates order with
        ⟨minutes, minutesLater, counted, countedLater, le⟩
      rw [spanBetween_eq, counted] at toEarlier
      rw [spanBetween_eq, countedLater] at toLater
      cases Except.ok.inj toEarlier
      cases Except.ok.inj toLater
      exact .some le

end Timestamp

namespace Moment

open Time

theorem isDate_ofMoment {moment : Moment} (date : moment.IsDate) :
    (Timestamp.ofMoment moment).IsDate :=
  ⟨date, by simp [Timestamp.ofMoment]⟩

/-- A span to a later moment is not shorter. -/
theorem span_mono_finish {start : Option Moment} {earlier later : Moment}
    (startDate : ∀ moment, start = some moment → moment.IsDate) (earlierDate : earlier.IsDate)
    (laterDate : later.IsDate) (order : earlier.ticks ≤ later.ticks) :
    Option.Rel (· ≤ ·) (span start (some earlier)) (span start (some later)) := by
  cases start with
  | none => exact .none
  | some start =>
      have dates : Timestamp.AreDates
          [Timestamp.ofMoment start, Timestamp.ofMoment earlier, Timestamp.ofMoment later] := by
        constructor
        · simp only [List.mem_cons, List.not_mem_nil, or_false]
          rintro timestamp (rfl | rfl | rfl)
          · exact isDate_ofMoment (startDate start rfl)
          · exact isDate_ofMoment earlierDate
          · exact isDate_ofMoment laterDate
        · simp [Timestamp.OfOneKind, Timestamp.SameKind, Timestamp.ofMoment]
      have noLater : (Timestamp.ofMoment earlier).NoLater (Timestamp.ofMoment later) := by
        simp [Timestamp.NoLater, Timestamp.ticksTo, Timestamp.instant, Timestamp.ofMoment, order]
      rcases Timestamp.minutesTo_mono_finish dates noLater with
        ⟨fewer, more, toEarlier, toLater, le⟩
      cases Except.ok.inj toEarlier
      cases Except.ok.inj toLater
      exact .some le

end Moment

namespace Milestones

open Time

section Times

variable {Point : Type} {milestones : Milestones Point}

/-- The milestones that were passed. -/
def times (milestones : Milestones Point) : List Point :=
  milestones.created ::
    (milestones.firstCommit.toList ++ milestones.merged.toList ++ milestones.deployed.toList)

theorem created_subset_times : (some milestones.created).toList ⊆ milestones.times := by
  simp [times]

theorem firstCommit_subset_times : milestones.firstCommit.toList ⊆ milestones.times := by
  intro time mem
  simp [times, Option.mem_toList.mp mem]

theorem merged_subset_times : milestones.merged.toList ⊆ milestones.times := by
  intro time mem
  simp [times, Option.mem_toList.mp mem]

theorem deployed_subset_times : milestones.deployed.toList ⊆ milestones.times := by
  intro time mem
  simp [times, Option.mem_toList.mp mem]

end Times

section Clock

variable {Point : Type} [Clock Point] {milestones : Milestones Point} {metrics : Metrics}

/-- Metrics are measured if each of the four spans is. -/
theorem measure_eq_ok_iff : milestones.measure = .ok metrics ↔
    spanBetween (some milestones.created) milestones.firstCommit = .ok metrics.planning ∧
    spanBetween milestones.firstCommit milestones.merged = .ok metrics.coding ∧
    spanBetween milestones.merged milestones.deployed = .ok metrics.deploying ∧
    spanBetween (some milestones.created) milestones.deployed = .ok metrics.total := by
  obtain ⟨metricPlanning, metricCoding, metricDeploying, metricTotal⟩ := metrics
  unfold measure
  cases spanBetween (some milestones.created) milestones.firstCommit with
  | error error => simp [bind, Except.bind]
  | ok planning =>
      cases spanBetween milestones.firstCommit milestones.merged with
      | error error => simp [bind, Except.bind]
      | ok coding =>
          cases spanBetween milestones.merged milestones.deployed with
          | error error => simp [bind, Except.bind]
          | ok deploying =>
              cases spanBetween (some milestones.created) milestones.deployed with
              | error error => simp [bind, Except.bind]
              | ok total => simp [bind, Except.bind, pure, Except.pure]

/-- Whatever is measured, the parts of the way are measured only with the spans that begin them. -/
theorem isSome_of_measure (measured : milestones.measure = .ok metrics) :
    (metrics.coding.isSome → metrics.planning.isSome) ∧
      (metrics.deploying.isSome → metrics.total.isSome) := by
  rcases measure_eq_ok_iff.mp measured with ⟨planning, coding, deploying, total⟩
  rw [spanBetween_isSome_iff planning, spanBetween_isSome_iff coding,
    spanBetween_isSome_iff deploying, spanBetween_isSome_iff total]
  constructor
  · rintro ⟨committed, _⟩
    exact ⟨rfl, committed⟩
  · rintro ⟨_, deployed⟩
    exact ⟨rfl, deployed⟩

end Clock

/-- The metrics between timestamps of one kind can be measured, whichever of them are missing. -/
theorem exists_measure {milestones : Milestones Timestamp}
    (kind : Timestamp.OfOneKind milestones.times) :
    ∃ metrics, milestones.measure = .ok metrics := by
  have measured {start finish : Option Timestamp} (starts : start.toList ⊆ milestones.times)
      (finishes : finish.toList ⊆ milestones.times) : ∃ span, spanBetween start finish = .ok span :=
    Timestamp.exists_spanBetween (kind.mono (List.append_subset.mpr ⟨starts, finishes⟩))
  rcases measured created_subset_times firstCommit_subset_times with ⟨planning, planned⟩
  rcases measured firstCommit_subset_times merged_subset_times with ⟨coding, coded⟩
  rcases measured merged_subset_times deployed_subset_times with ⟨deploying, shipped⟩
  rcases measured created_subset_times deployed_subset_times with ⟨total, passed⟩
  exact ⟨⟨planning, coding, deploying, total⟩,
    measure_eq_ok_iff.mpr ⟨planned, coded, shipped, passed⟩⟩

/-- Between timestamps of one kind that are at most `2 ^ 28` minutes apart, in any order, all four
metrics are measured, and the total differs by at most two minutes from the sum of the others.
Whatever is missing, timestamps of one kind are never refused, and what is measured is measured
together with what begins at the creation. -/
theorem metrics_add_up :
    (∀ created firstCommit merged deployed : Timestamp,
      Timestamp.OfOneKind [created, firstCommit, merged, deployed] →
      (∀ one ∈ [created, firstCommit, merged, deployed],
        ∀ other ∈ [created, firstCommit, merged, deployed],
          (one.ticksTo other).natAbs ≤ 2 ^ 28 * 60000000) →
      ∃ planning coding deploying total : Int,
        measure ⟨created, some firstCommit, some merged, some deployed⟩ =
          .ok ⟨some planning, some coding, some deploying, some total⟩ ∧
        |total - (planning + coding + deploying)| ≤ 2) ∧
    (∀ milestones : Milestones Timestamp, Timestamp.OfOneKind milestones.times →
      ∃ metrics, milestones.measure = .ok metrics) ∧
    (∀ (Point : Type) [Clock Point] (milestones : Milestones Point) (metrics : Metrics),
      milestones.measure = .ok metrics →
      (metrics.coding.isSome → metrics.planning.isSome) ∧
        (metrics.deploying.isSome → metrics.total.isSome)) := by
  refine ⟨?_, ?_, ?_⟩
  · intro created firstCommit merged deployed kind near
    have counted {start finish : Timestamp}
        (startMem : start ∈ [created, firstCommit, merged, deployed])
        (finishMem : finish ∈ [created, firstCommit, merged, deployed]) :
        spanBetween (some start) (some finish) =
          .ok (some (wholeMinutes (start.ticksTo finish))) := by
      rw [Timestamp.spanBetween_eq, Timestamp.minutesTo_of_sameKind (kind _ startMem _ finishMem)]
      rfl
    refine ⟨wholeMinutes (created.ticksTo firstCommit), wholeMinutes (firstCommit.ticksTo merged),
      wholeMinutes (merged.ticksTo deployed), wholeMinutes (created.ticksTo deployed), ?_, ?_⟩
    · rw [measure_eq_ok_iff]
      refine ⟨?_, ?_, ?_, ?_⟩ <;> exact counted (by simp) (by simp)
    · have whole : created.ticksTo firstCommit + firstCommit.ticksTo merged +
          merged.ticksTo deployed = created.ticksTo deployed := by
        rw [Timestamp.ticksTo_add, Timestamp.ticksTo_add]
      rw [← whole]
      apply wholeMinutes_add_near
      · exact near created (by simp) firstCommit (by simp)
      · exact near firstCommit (by simp) merged (by simp)
      · exact near merged (by simp) deployed (by simp)
      · rw [whole]
        exact near created (by simp) deployed (by simp)
  · intro milestones kind
    exact exists_measure kind
  · intro Point clock milestones metrics measured
    exact isSome_of_measure measured

/-- Three parts of 54 seconds, read from clocks with three offsets, have no minute each and two
minutes together. -/
theorem metrics_add_up_of_fractions :
    let created : Timestamp := ⟨⟨63840000000000000⟩, some 0⟩
    let firstCommit : Timestamp := ⟨⟨63840003654000000⟩, some 60⟩
    let merged : Timestamp := ⟨⟨63839980308000000⟩, some (-330)⟩
    let deployed : Timestamp := ⟨⟨63840000162000000⟩, some 0⟩
    let milestones : Milestones Timestamp := ⟨created, some firstCommit, some merged, some deployed⟩
    let metrics : Metrics := ⟨some 0, some 0, some 0, some 2⟩
    milestones.measure = .ok metrics ∧
    (∃ planning coding deploying total : Int,
      milestones.measure = .ok ⟨some planning, some coding, some deploying, some total⟩ ∧
      |total - (planning + coding + deploying)| ≤ 2) ∧
    (∃ measured, milestones.measure = .ok measured) ∧
    (metrics.coding.isSome → metrics.planning.isSome) ∧
      (metrics.deploying.isSome → metrics.total.isSome) := by
  intro created firstCommit merged deployed milestones metrics
  have kind : Timestamp.OfOneKind [created, firstCommit, merged, deployed] := by
    simp [Timestamp.OfOneKind, Timestamp.SameKind, created, firstCommit, merged, deployed]
  have measured : milestones.measure = .ok metrics := by decide
  refine ⟨measured, ?_, ?_, ?_⟩
  · exact metrics_add_up.1 created firstCommit merged deployed kind (by decide)
  · exact metrics_add_up.2.1 milestones kind
  · exact metrics_add_up.2.2 Timestamp milestones metrics measured

end Milestones

namespace Correlation

variable {Point : Type}

/-- The correlation with a deployment in the place of its own. -/
def shippedBy (correlation : Correlation Point) (deployment : MatchedDeployment Point) :
    Correlation Point :=
  { correlation with deployment := some deployment }

@[simp] theorem milestones_shippedBy (correlation : Correlation Point)
    (deployment : MatchedDeployment Point) :
    (correlation.shippedBy deployment).milestones =
      ⟨correlation.taskCreatedAt, correlation.firstCommitAt, correlation.pullRequest.mergedAt,
        some deployment.finishedAt⟩ := rfl

theorem record_eq_ok [Time.Clock Point] {correlation : Correlation Point} {metrics : Metrics}
    (measured : correlation.milestones.measure = .ok metrics) :
    correlation.record = .ok (correlation.withMetrics metrics) := by
  rw [record, measured]
  rfl

/-- With a deployment that finished earlier no span to the deployment is longer. -/
theorem record_shippedBy_mono {correlation : Correlation Timestamp}
    {earlier later : MatchedDeployment Timestamp}
    (dates : Timestamp.AreDates ((correlation.shippedBy earlier).milestones.times ++
      (correlation.shippedBy later).milestones.times))
    (order : earlier.finishedAt.NoLater later.finishedAt) :
    ∃ first second, (correlation.shippedBy earlier).record = .ok first ∧
      (correlation.shippedBy later).record = .ok second ∧
      Option.Rel (· ≤ ·) first.metrics.deploying second.metrics.deploying ∧
      Option.Rel (· ≤ ·) first.metrics.total second.metrics.total := by
  rcases Milestones.exists_measure (dates.kind.mono (List.subset_append_left _ _)) with
    ⟨first, measuredFirst⟩
  rcases Milestones.exists_measure (dates.kind.mono (List.subset_append_right _ _)) with
    ⟨second, measuredSecond⟩
  refine ⟨_, _, record_eq_ok measuredFirst, record_eq_ok measuredSecond, ?_⟩
  rw [Milestones.measure_eq_ok_iff] at measuredFirst measuredSecond
  rcases measuredFirst with ⟨_, _, firstDeploying, firstTotal⟩
  rcases measuredSecond with ⟨_, _, secondDeploying, secondTotal⟩
  have ends {start : Option Timestamp}
      (subset : start.toList ⊆ (correlation.shippedBy earlier).milestones.times) :
      Timestamp.AreDates (start.toList ++ [earlier.finishedAt, later.finishedAt]) := by
    apply dates.mono
    refine List.append_subset.mpr ⟨List.subset_append_of_subset_left _ subset, ?_⟩
    simp [Milestones.times]
  constructor
  · exact Timestamp.spanBetween_mono_finish (ends Milestones.merged_subset_times) order
      firstDeploying secondDeploying
  · exact Timestamp.spanBetween_mono_finish (ends Milestones.created_subset_times) order
      firstTotal secondTotal

/-- The same of the records that runs write. -/
theorem momentRecord_shippedBy_mono {correlation : Correlation Moment}
    {earlier later : MatchedDeployment Moment}
    (dates : (correlation.shippedBy earlier).milestones.AreDates)
    (laterDate : later.finishedAt.IsDate)
    (order : earlier.finishedAt.ticks ≤ later.finishedAt.ticks) :
    Option.Rel (· ≤ ·) (correlation.shippedBy earlier).momentRecord.metrics.deploying
      (correlation.shippedBy later).momentRecord.metrics.deploying ∧
    Option.Rel (· ≤ ·) (correlation.shippedBy earlier).momentRecord.metrics.total
      (correlation.shippedBy later).momentRecord.metrics.total := by
  have earlierDate : earlier.finishedAt.IsDate := dates.deployed _ rfl
  constructor
  · exact Moment.span_mono_finish dates.merged earlierDate laterDate order
  · refine @Moment.span_mono_finish (some correlation.taskCreatedAt) _ _ ?_ earlierDate laterDate
      order
    rintro moment ⟨⟩
    exact dates.created

end Correlation

/-- Whole minutes are symmetric, they grow with a later end and shrink with a later start, and they
do not depend on the offsets of the clocks, for all dates of one kind and spans of any length. So of
two deployments of a pull request the one that finished earlier has no longer spans. -/
theorem whole_minutes_keep_order :
    (∀ start finish : Timestamp, start.SameKind finish →
      ∃ minutes, start.minutesTo finish = .ok minutes ∧ finish.minutesTo start = .ok (-minutes)) ∧
    (∀ start earlier later : Timestamp, Timestamp.AreDates [start, earlier, later] →
      earlier.NoLater later → Time.AtMost (start.minutesTo earlier) (start.minutesTo later)) ∧
    (∀ earlier later finish : Timestamp, Timestamp.AreDates [earlier, later, finish] →
      earlier.NoLater later → Time.AtMost (later.minutesTo finish) (earlier.minutesTo finish)) ∧
    (∀ timestamp rewritten : Timestamp, timestamp.SameInstant rewritten →
      ∀ other, rewritten.minutesTo other = timestamp.minutesTo other ∧
        other.minutesTo rewritten = other.minutesTo timestamp) ∧
    (∀ (correlation : Correlation Timestamp) (earlier later : MatchedDeployment Timestamp),
      Timestamp.AreDates ((correlation.shippedBy earlier).milestones.times ++
        (correlation.shippedBy later).milestones.times) →
      earlier.finishedAt.NoLater later.finishedAt →
      ∃ first second, (correlation.shippedBy earlier).record = .ok first ∧
        (correlation.shippedBy later).record = .ok second ∧
        Option.Rel (· ≤ ·) first.metrics.deploying second.metrics.deploying ∧
        Option.Rel (· ≤ ·) first.metrics.total second.metrics.total) ∧
    (∀ (correlation : Correlation Moment) (earlier later : MatchedDeployment Moment),
      (correlation.shippedBy earlier).milestones.AreDates → later.finishedAt.IsDate →
      earlier.finishedAt.ticks ≤ later.finishedAt.ticks →
      Option.Rel (· ≤ ·) (correlation.shippedBy earlier).momentRecord.metrics.deploying
        (correlation.shippedBy later).momentRecord.metrics.deploying ∧
      Option.Rel (· ≤ ·) (correlation.shippedBy earlier).momentRecord.metrics.total
        (correlation.shippedBy later).momentRecord.metrics.total) := by
  refine ⟨?_, ?_, ?_, ?_, ?_, ?_⟩
  · intro start finish kind
    exact Timestamp.minutesTo_reversed kind
  · intro start earlier later dates order
    exact Timestamp.minutesTo_mono_finish dates order
  · intro earlier later finish dates order
    exact Timestamp.minutesTo_anti_start dates order
  · intro timestamp rewritten same other
    exact ⟨same.minutesTo_eq_left other, same.minutesTo_eq_right other⟩
  · intro correlation earlier later dates order
    exact Correlation.record_shippedBy_mono dates order
  · intro correlation earlier later dates laterDate order
    exact Correlation.momentRecord_shippedBy_mono dates laterDate order

/-- A task of which only the creation and the merge are known. -/
def mergedTask {Point : Type} (created merged : Point) : Correlation Point where
  taskId := "T1"
  connectionId := 1
  taskCreatedAt := created
  pullRequest := ⟨"pull", 1, created, some merged, some "commit", "pull_request_by_linked_number"⟩
  firstCommitAt := none
  deployment := none

def releaseAt {Point : Type} (finished : Point) : MatchedDeployment Point :=
  ⟨"release", finished, "deployment_in_production"⟩

/-- The first tick of the calendar and its last two, whose spans are rounded. -/
theorem whole_minutes_keep_order_of_calendar :
    let first : Timestamp := ⟨⟨0⟩, some 0⟩
    let firstElsewhere : Timestamp := ⟨⟨19800000000⟩, some 330⟩
    let nextToLast : Timestamp := ⟨⟨315537897599999998⟩, some 0⟩
    let last : Timestamp := ⟨⟨315537897599999999⟩, some 0⟩
    let task := mergedTask first first
    let storedTask := mergedTask first.wall first.wall
    let stored := (storedTask.shippedBy (releaseAt nextToLast.wall)).momentRecord.metrics
    let storedLater := (storedTask.shippedBy (releaseAt last.wall)).momentRecord.metrics
    first.minutesTo last = .ok 5258964960 ∧
    (∃ minutes, first.minutesTo last = .ok minutes ∧ last.minutesTo first = .ok (-minutes)) ∧
    Time.AtMost (first.minutesTo nextToLast) (first.minutesTo last) ∧
    Time.AtMost (last.minutesTo first) (nextToLast.minutesTo first) ∧
    (firstElsewhere.minutesTo last = first.minutesTo last ∧
      last.minutesTo firstElsewhere = last.minutesTo first) ∧
    (∃ sooner later, (task.shippedBy (releaseAt nextToLast)).record = .ok sooner ∧
      (task.shippedBy (releaseAt last)).record = .ok later ∧
      Option.Rel (· ≤ ·) sooner.metrics.deploying later.metrics.deploying ∧
      Option.Rel (· ≤ ·) sooner.metrics.total later.metrics.total) ∧
    Option.Rel (· ≤ ·) stored.deploying storedLater.deploying ∧
      Option.Rel (· ≤ ·) stored.total storedLater.total := by
  intro first firstElsewhere nextToLast last task storedTask stored storedLater
  have dates : (storedTask.shippedBy (releaseAt nextToLast.wall)).milestones.AreDates := by
    refine ⟨by decide, ?_, ?_, ?_⟩ <;> rintro moment ⟨⟩ <;> decide
  rcases whole_minutes_keep_order with
    ⟨reversed, laterFinish, laterStart, elsewhere, laterRelease, laterStored⟩
  refine ⟨by decide, ?_, ?_, ?_, ?_, ?_, ?_⟩
  · exact reversed first last (by decide)
  · exact laterFinish first nextToLast last (by decide) (by decide)
  · exact laterStart nextToLast last first (by decide) (by decide)
  · exact elsewhere first firstElsewhere (by decide) last
  · exact laterRelease task (releaseAt nextToLast) (releaseAt last) (by decide) (by decide)
  · exact laterStored storedTask (releaseAt nextToLast.wall) (releaseAt last.wall) dates
      (by decide) (by decide)

end DeliveryCycle
