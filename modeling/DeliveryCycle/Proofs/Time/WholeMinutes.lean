import DeliveryCycle.Proofs.Number.Grid
import DeliveryCycle.Proofs.Store.Storable
import DeliveryCycle.Time.Span

/-!
# How exact whole minutes are

A span is counted in whole minutes by a rounded quotient whose fraction is cut off. Up to `2 ^ 28`
minutes the quotient lies on a grid of parts of at most `2 ^ -25`, and a span that is not whole
stays more than half a part below the next minute: the count is exact. Beyond, it is the exact count
or one minute more, which `wholeMinutes_near` says of every span below `2 ^ 53` minutes, far more
than lie between two dates.
-/

namespace DeliveryCycle

open Number

namespace Time

variable {ticks : Int}

theorem ticksPerMinute_pos : 0 < ticksPerMinute := by decide

theorem wholeMinutes_eq_tdiv (short : ticks.natAbs ≤ twoPow 28 * ticksPerMinute) :
    wholeMinutes ticks = ticks.tdiv ticksPerMinute := by
  -- The longest of these spans is on a coarser grid already, but it is a whole number of minutes.
  rcases Nat.lt_or_eq_of_le short with below | longest
  · have fits : fitsGrid ticks.natAbs ticksPerMinute (-(25 : Nat)) = true :=
      fitsGrid_of_lt (by decide) below
    exact Binary64.truncate_ofRatio_eq_tdiv ticksPerMinute_pos (by decide) fits (by decide)
  · apply Binary64.truncate_ofRatio_of_dvd ticksPerMinute_pos
    · rw [longest]
      decide
    · rw [longest]
      exact Nat.dvd_mul_left _ _

/-- Any span that is counted on a grid of fractions is counted up to one minute. -/
theorem wholeMinutes_near (bounded : ticks.natAbs < twoPow 53 * ticksPerMinute) :
    wholeMinutes ticks = ticks.tdiv ticksPerMinute ∨
      wholeMinutes ticks = ticks.tdiv ticksPerMinute + ticks.sign :=
  Binary64.truncate_ofRatio_near ticksPerMinute_pos (gridExponent_le_zero ticksPerMinute_pos bounded)

-- One tick short of a whole minute, just beyond the exact spans.
example : wholeMinutes ((2 ^ 28 + 1) * 60000000 - 1) = 2 ^ 28 + 1 := by decide

end Time

namespace Timestamp

open Time

variable {start finish : Timestamp}

/-- A date of the calendar whose clock is less than a day ahead of universal time or behind it. -/
structure IsDate (timestamp : Timestamp) : Prop where
  wall : timestamp.wall.IsDate
  offset : ∀ offset, timestamp.offset = some offset → offset.natAbs < 24 * 60

/-- Both timestamps have an offset or neither has one. -/
def SameKind (start finish : Timestamp) : Prop := start.offset.isSome = finish.offset.isSome

/-- The microseconds from one timestamp to another of the same kind. -/
def ticksTo (start finish : Timestamp) : Int :=
  finish.instant (finish.offset.getD 0) - start.instant (start.offset.getD 0)

theorem minutesTo_of_sameKind (sameKind : start.SameKind finish) :
    start.minutesTo finish = .ok (wholeMinutes (start.ticksTo finish)) := by
  obtain ⟨startWall, startOffset⟩ := start
  obtain ⟨finishWall, finishOffset⟩ := finish
  cases startOffset <;> cases finishOffset <;>
    simp_all [SameKind, minutesTo, ticksTo, instant, Moment.minutesTo]

theorem IsDate.natAbs_offset_lt (date : start.IsDate) : (start.offset.getD 0).natAbs < 24 * 60 := by
  cases known : start.offset with
  | none => decide
  | some offset => exact date.offset offset known

theorem natAbs_ticksTo_lt (startDate : start.IsDate) (finishDate : finish.IsDate) :
    (start.ticksTo finish).natAbs < twoPow 53 * ticksPerMinute := by
  have lastTick : endOfDates = 315537897600000000 := by decide
  have minute : ticksPerMinute = 60000000 := by decide
  have size : twoPow 53 = 9007199254740992 := by decide
  have startWall := startDate.wall
  have finishWall := finishDate.wall
  have startOffset := startDate.natAbs_offset_lt
  have finishOffset := finishDate.natAbs_offset_lt
  unfold Moment.IsDate at startWall finishWall
  unfold ticksTo instant
  rw [minute, size]
  omega

/-- Between two dates of the same kind minutes are counted: exactly up to `2 ^ 28` of them, and any
others exactly or with one minute more, away from zero. -/
theorem minutesTo_exact_or_next (startDate : start.IsDate) (finishDate : finish.IsDate)
    (sameKind : start.SameKind finish) :
    ∃ minutes, start.minutesTo finish = .ok minutes ∧
      ((start.ticksTo finish).natAbs ≤ 2 ^ 28 * 60000000 →
        minutes = (start.ticksTo finish).tdiv 60000000) ∧
      (2 ^ 28 * 60000000 < (start.ticksTo finish).natAbs →
        minutes = (start.ticksTo finish).tdiv 60000000 ∨
          minutes = (start.ticksTo finish).tdiv 60000000 + (start.ticksTo finish).sign) := by
  refine ⟨wholeMinutes (start.ticksTo finish), minutesTo_of_sameKind sameKind, ?_, ?_⟩
  · intro short
    exact wholeMinutes_eq_tdiv short
  · intro _
    exact wholeMinutes_near (natAbs_ticksTo_lt startDate finishDate)

theorem minutesTo_calendar :
    let first : Timestamp := ⟨⟨0⟩, none⟩
    let last : Timestamp := ⟨⟨315537897599999999⟩, none⟩
    first.minutesTo last = .ok 5258964959 ∨ first.minutesTo last = .ok 5258964960 := by
  intro first last
  have firstDate : first.IsDate := ⟨by decide, by simp [first]⟩
  have lastDate : last.IsDate := ⟨by decide, by simp [last]⟩
  have apart : first.ticksTo last = 315537897599999999 := by decide
  obtain ⟨minutes, counted, _, near⟩ := minutesTo_exact_or_next firstDate lastDate rfl
  rw [apart] at near
  rw [counted]
  rcases near (by decide) with rfl | rfl
  · left
    rfl
  · right
    rfl

end Timestamp

end DeliveryCycle
