import DeliveryCycle.Time.Timestamp
import DeliveryCycle.Number.Binary64

/-!
# Spans in whole minutes

A span in microseconds is divided by the length of a minute as a number of double precision, and
the fraction of the quotient is cut off. For spans of some centuries the quotient is no longer
exact, and a span that is just short of a minute may count as that minute.

Two timestamps have a span if both have an offset or neither has one. A timestamp that is not there
has no span to any other.
-/

namespace DeliveryCycle

namespace Time

def wholeMinutes (ticks : Int) : Int := (Binary64.ofRatio ticks ticksPerMinute).truncate

inductive SpanError where
  /-- One timestamp has an offset and the other has none. -/
  | mixedOffsets
  /-- At least one of the timestamps is not there. -/
  | missingEnd (hasStart hasFinish : Bool)
deriving DecidableEq, Repr

/-- The kind of an end of a span in messages. -/
def endKind (present : Bool) : String := if present then "datetime.datetime" else "NoneType"

def SpanError.message : SpanError → String
  | .mixedOffsets => "can't subtract offset-naive and offset-aware datetimes"
  | .missingEnd hasStart hasFinish =>
      s!"unsupported operand type(s) for -: '{endKind hasFinish}' and '{endKind hasStart}'"

/-- Times between which whole minutes can be counted. -/
class Clock (Point : Type) where
  /-- The whole minutes from the first time to the second. -/
  minutesBetween : Point → Point → Except SpanError Int

end Time

open Time

def Moment.minutesTo (start finish : Moment) : Int :=
  wholeMinutes ((finish.ticks : Int) - start.ticks)

/-- The microseconds from the start of the year 1 in universal time, for a known offset. -/
def Timestamp.instant (timestamp : Timestamp) (offset : Int) : Int :=
  timestamp.wall.ticks - offset * ticksPerMinute

/-- The whole minutes from one timestamp to another of the same kind. -/
def Timestamp.minutesTo (start finish : Timestamp) : Except SpanError Int :=
  match start.offset, finish.offset with
  | none, none => .ok (start.wall.minutesTo finish.wall)
  | some startOffset, some finishOffset =>
      .ok (wholeMinutes (finish.instant finishOffset - start.instant startOffset))
  | _, _ => .error .mixedOffsets

/-- The whole minutes between two timestamps that may be missing. -/
def Time.minutesBetween? : (start finish : Option Timestamp) → Except SpanError Int
  | some start, some finish => start.minutesTo finish
  | start, finish => .error (.missingEnd start.isSome finish.isSome)

/-- Between timestamps that are there the span is theirs. -/
@[simp] theorem Time.minutesBetween?_some (start finish : Timestamp) :
    Time.minutesBetween? (some start) (some finish) = start.minutesTo finish := rfl

instance : Clock Moment := ⟨fun start finish => .ok (start.minutesTo finish)⟩

instance : Clock Timestamp := ⟨Timestamp.minutesTo⟩

instance : Clock (Option Timestamp) := ⟨Time.minutesBetween?⟩

end DeliveryCycle
