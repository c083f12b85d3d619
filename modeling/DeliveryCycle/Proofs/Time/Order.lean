import DeliveryCycle.Proofs.Number.Order
import DeliveryCycle.Proofs.Time.WholeMinutes

/-!
# Whole minutes keep the order of time

Counting whole minutes commutes with turning a span around, and a longer span does not have fewer
of them. Neither needs the quotient to be exact: rounding is symmetric and keeps order, and so does
cutting off. What is counted depends on the instants only, so an end may be read from a clock with
another offset.
-/

namespace DeliveryCycle

open Number

namespace Time

variable {ticks longer : Int}

theorem wholeMinutes_neg (ticks : Int) : wholeMinutes (-ticks) = -wholeMinutes ticks :=
  Binary64.truncate_of_value_neg (Binary64.value_ofRatio_neg ticks ticksPerMinute)

/-- A longer span does not have fewer whole minutes. -/
theorem wholeMinutes_mono (bounded : ticks.natAbs < twoPow 53 * ticksPerMinute)
    (longerBounded : longer.natAbs < twoPow 53 * ticksPerMinute) (le : ticks ≤ longer) :
    wholeMinutes ticks ≤ wholeMinutes longer := by
  apply Binary64.truncate_mono
  have fractions := gridExponent_le_zero ticksPerMinute_pos bounded
  have longerFractions := gridExponent_le_zero ticksPerMinute_pos longerBounded
  apply Binary64.value_ofRatio_mono ticksPerMinute_pos ticksPerMinute_pos (by omega) (by omega)
  exact Int.mul_le_mul_of_nonneg_right le (by decide)

/-- Both spans are counted, and the second one has no fewer minutes. -/
def AtMost (first second : Except SpanError Int) : Prop :=
  ∃ fewer more, first = .ok fewer ∧ second = .ok more ∧ fewer ≤ more

end Time

namespace Timestamp

open Time

variable {start finish rewritten earlier later : Timestamp}

/-- All timestamps have an offset or none has one. -/
def OfOneKind (timestamps : List Timestamp) : Prop :=
  ∀ one ∈ timestamps, ∀ other ∈ timestamps, one.SameKind other

/-- The timestamps are dates of the calendar and of one kind. -/
structure AreDates (timestamps : List Timestamp) : Prop where
  dates : ∀ timestamp ∈ timestamps, timestamp.IsDate
  kind : OfOneKind timestamps

/-- The first instant is not after the second one. -/
def NoLater (earlier later : Timestamp) : Prop := 0 ≤ earlier.ticksTo later

/-- Both timestamps show one instant, by clocks that may have different offsets. -/
structure SameInstant (timestamp rewritten : Timestamp) : Prop where
  kind : timestamp.SameKind rewritten
  instant : timestamp.ticksTo rewritten = 0

theorem isDate_iff : start.IsDate ↔ start.wall.IsDate ∧ (start.offset.getD 0).natAbs < 24 * 60 := by
  constructor
  · intro date
    exact ⟨date.wall, date.natAbs_offset_lt⟩
  · rintro ⟨wall, near⟩
    refine ⟨wall, fun offset known => ?_⟩
    rwa [known] at near

theorem areDates_iff {timestamps : List Timestamp} :
    AreDates timestamps ↔ (∀ timestamp ∈ timestamps, timestamp.IsDate) ∧ OfOneKind timestamps :=
  ⟨fun dates => ⟨dates.dates, dates.kind⟩, fun dates => ⟨dates.1, dates.2⟩⟩

theorem sameInstant_iff :
    start.SameInstant rewritten ↔ start.SameKind rewritten ∧ start.ticksTo rewritten = 0 :=
  ⟨fun same => ⟨same.kind, same.instant⟩, fun same => ⟨same.1, same.2⟩⟩

instance (timestamp : Timestamp) : Decidable timestamp.IsDate := decidable_of_iff _ isDate_iff.symm

instance (start finish : Timestamp) : Decidable (start.SameKind finish) :=
  inferInstanceAs (Decidable (_ = _))

instance (timestamps : List Timestamp) : Decidable (OfOneKind timestamps) :=
  inferInstanceAs (Decidable (∀ one ∈ timestamps, ∀ other ∈ timestamps, one.SameKind other))

instance (timestamps : List Timestamp) : Decidable (AreDates timestamps) :=
  decidable_of_iff _ areDates_iff.symm

instance (earlier later : Timestamp) : Decidable (earlier.NoLater later) :=
  inferInstanceAs (Decidable (_ ≤ _))

instance (timestamp rewritten : Timestamp) : Decidable (timestamp.SameInstant rewritten) :=
  decidable_of_iff _ sameInstant_iff.symm

theorem ticksTo_comm (start finish : Timestamp) : finish.ticksTo start = -start.ticksTo finish := by
  unfold ticksTo
  omega

theorem ticksTo_add (start middle finish : Timestamp) :
    start.ticksTo middle + middle.ticksTo finish = start.ticksTo finish := by
  unfold ticksTo
  omega

theorem SameKind.symm (kind : start.SameKind finish) : finish.SameKind start := Eq.symm kind

/-- What is counted depends on the instants and on the kinds only. -/
theorem minutesTo_eq (start finish : Timestamp) :
    start.minutesTo finish =
      if start.offset.isSome = finish.offset.isSome then .ok (wholeMinutes (start.ticksTo finish))
      else .error .mixedOffsets := by
  by_cases sameKind : start.offset.isSome = finish.offset.isSome
  · rw [if_pos sameKind, minutesTo_of_sameKind sameKind]
  · rw [if_neg sameKind]
    obtain ⟨startWall, startOffset⟩ := start
    obtain ⟨finishWall, finishOffset⟩ := finish
    cases startOffset <;> cases finishOffset <;> simp_all [minutesTo]

theorem minutesTo_reversed (kind : start.SameKind finish) :
    ∃ minutes, start.minutesTo finish = .ok minutes ∧ finish.minutesTo start = .ok (-minutes) := by
  refine ⟨_, minutesTo_of_sameKind kind, ?_⟩
  rw [minutesTo_of_sameKind kind.symm, ticksTo_comm, wholeMinutes_neg]

/-- The later an end, the more minutes. -/
theorem minutesTo_mono_finish (dates : AreDates [start, earlier, later])
    (order : earlier.NoLater later) : AtMost (start.minutesTo earlier) (start.minutesTo later) := by
  have startDate := dates.dates start (by simp)
  refine ⟨_, _, minutesTo_of_sameKind (dates.kind start (by simp) earlier (by simp)),
    minutesTo_of_sameKind (dates.kind start (by simp) later (by simp)), ?_⟩
  apply wholeMinutes_mono (natAbs_ticksTo_lt startDate (dates.dates earlier (by simp)))
    (natAbs_ticksTo_lt startDate (dates.dates later (by simp)))
  have through := ticksTo_add start earlier later
  unfold NoLater at order
  omega

/-- The later a start, the fewer minutes. -/
theorem minutesTo_anti_start (dates : AreDates [earlier, later, finish])
    (order : earlier.NoLater later) :
    AtMost (later.minutesTo finish) (earlier.minutesTo finish) := by
  have finishDate := dates.dates finish (by simp)
  refine ⟨_, _, minutesTo_of_sameKind (dates.kind later (by simp) finish (by simp)),
    minutesTo_of_sameKind (dates.kind earlier (by simp) finish (by simp)), ?_⟩
  apply wholeMinutes_mono (natAbs_ticksTo_lt (dates.dates later (by simp)) finishDate)
    (natAbs_ticksTo_lt (dates.dates earlier (by simp)) finishDate)
  have through := ticksTo_add earlier later finish
  unfold NoLater at order
  omega

theorem SameInstant.minutesTo_eq_left (same : start.SameInstant rewritten) (finish : Timestamp) :
    rewritten.minutesTo finish = start.minutesTo finish := by
  have through := ticksTo_add start rewritten finish
  rw [same.instant, Int.zero_add] at through
  rw [minutesTo_eq, minutesTo_eq, through, same.kind]

theorem SameInstant.minutesTo_eq_right (same : finish.SameInstant rewritten) (start : Timestamp) :
    start.minutesTo rewritten = start.minutesTo finish := by
  have through := ticksTo_add start finish rewritten
  rw [same.instant, Int.add_zero] at through
  rw [minutesTo_eq, minutesTo_eq, through, same.kind]

end Timestamp

end DeliveryCycle
