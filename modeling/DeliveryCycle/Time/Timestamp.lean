import DeliveryCycle.Number.IntegerText
import DeliveryCycle.Number.Power
import DeliveryCycle.Time.Civil

/-!
# Moments and timestamps

A `Moment` is a reading of a wall clock, counted in microseconds from the start of the year 1. The
store holds moments. A `Timestamp` is a moment that may come with the offset of its clock from
universal time; two timestamps with offsets are compared by their `instant`.

Both are written as date and time with a separator between them. Microseconds are written, as six
digits, only if there are any, and an offset as a sign, hours and minutes.
-/

namespace DeliveryCycle

/-- A reading of a wall clock, in microseconds from the start of the year 1. -/
structure Moment where
  ticks : Nat
deriving DecidableEq, Repr, Inhabited

/-- A reading of a wall clock and, if known, the clock's offset in minutes east. An offset is fixed
and of whole minutes: a clock whose offset changes with the seasons, or has seconds, is not
represented. -/
structure Timestamp where
  wall : Moment
  offset : Option Int
deriving DecidableEq, Repr, Inhabited

namespace Time

def ticksPerSecond : Nat := 1000000

def ticksPerMinute : Nat := 60 * ticksPerSecond

def ticksPerDay : Nat := 24 * 60 * ticksPerMinute

/-- The last `width` decimal digits of a number. -/
def paddedDigits : (width : Nat) → Nat → List Char
  | 0, _ => []
  | width + 1, number => paddedDigits width (number / 10) ++ [Char.ofNat (48 + number % 10)]

/-- A number of exactly `width` digits at the start of a text, and the rest of the text. -/
def readDigits? : (width : Nat) → List Char → Option (Nat × List Char)
  | 0, rest => some (0, rest)
  | _ + 1, [] => none
  | width + 1, character :: rest => do
      let digit ← Number.commonDigitValue? character
      let (value, rest) ← readDigits? width rest
      return (digit * Number.tenPow width + value, rest)

def readChar? (expected : Char) : List Char → Option (List Char)
  | character :: rest => if character = expected then some rest else none
  | [] => none

/-- A fraction of a second of one to six digits, if there is one, in microseconds. -/
def readFraction? : List Char → Option (Nat × List Char)
  | '.' :: rest =>
      let digits := rest.takeWhile Char.isDigit
      let width := digits.length
      if 1 ≤ width && width ≤ 6 then do
        let (value, rest) ← readDigits? width rest
        return (value * Number.tenPow (6 - width), rest)
      else none
  | rest => some (0, rest)

def readHoursMinutes? (text : List Char) : Option (Nat × List Char) := do
  let (hours, text) ← readDigits? 2 text
  let text ← readChar? ':' text
  let (minutes, text) ← readDigits? 2 text
  return (hours * 60 + minutes, text)

/-- What may follow the time: nothing, the letter of universal time, or a signed offset. -/
def readOffset? : List Char → Option (Option Int)
  | [] => some none
  | ['Z'] => some (some 0)
  | sign :: rest =>
      match readHoursMinutes? rest with
      | some (minutes, []) =>
          if sign = '+' then some (some minutes)
          else if sign = '-' then some (some (-(minutes : Int)))
          else none
      | _ => none

end Time

open Time

namespace Moment

def day (moment : Moment) : Nat := moment.ticks / ticksPerDay

/-- The moment as date, separator and time of day. -/
def text (separator : Char) (moment : Moment) : List Char :=
  let date := Date.ofDay moment.day
  let seconds := moment.ticks % ticksPerDay / ticksPerSecond
  let fraction := moment.ticks % ticksPerSecond
  paddedDigits 4 date.year ++ '-' :: (paddedDigits 2 date.month ++ '-' ::
    (paddedDigits 2 date.day ++ separator :: (paddedDigits 2 (seconds / 3600) ++ ':' ::
      (paddedDigits 2 (seconds / 60 % 60) ++ ':' :: (paddedDigits 2 (seconds % 60) ++
        if fraction = 0 then [] else '.' :: paddedDigits 6 fraction)))))

end Moment

namespace Timestamp

def ofMoment (moment : Moment) : Timestamp := ⟨moment, none⟩

def offsetText (offset : Int) : List Char :=
  let minutes := offset.natAbs
  (if offset < 0 then '-' else '+') ::
    (paddedDigits 2 (minutes / 60) ++ ':' :: paddedDigits 2 (minutes % 60))

/-- The timestamp as date, separator, time of day and offset. -/
def text (separator : Char) (timestamp : Timestamp) : String :=
  String.ofList (timestamp.wall.text separator ++ (timestamp.offset.map offsetText).getD [])

/-- The timestamp as data: a `T` stands between date and time. -/
def isoText (timestamp : Timestamp) : String := timestamp.text 'T'

/-- The timestamp as it stands in a message: a blank stands between date and time. -/
def messageText (timestamp : Timestamp) : String := timestamp.text ' '

/-- The timestamp that a text with a `T` between date and time stands for. -/
def ofText? (input : String) : Option Timestamp := do
  let (year, text) ← readDigits? 4 input.toList
  let (month, text) ← readDigits? 2 (← readChar? '-' text)
  let (day, text) ← readDigits? 2 (← readChar? '-' text)
  let (minutes, text) ← readHoursMinutes? (← readChar? 'T' text)
  let (seconds, text) ← readDigits? 2 (← readChar? ':' text)
  let (fraction, text) ← readFraction? text
  let offset ← readOffset? text
  let date : Date := { year, month, day }
  return ⟨⟨date.toDay * ticksPerDay + minutes * ticksPerMinute + seconds * ticksPerSecond +
    fraction⟩, offset⟩

end Timestamp

end DeliveryCycle
