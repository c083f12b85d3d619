import DeliveryCycle.Text.Quoted
import DeliveryCycle.Text.Segments

/-!
# Tables of codes

What the characters of all scripts are like is told by tables. A table is written as lines of words
with a blank between two of them. A word stands for a run of codes: numbers in hexadecimal digits
with hyphens between them, the first and the last code of the run, and the step from one code to the
next. A word with one number is a single code, one with two has every code between them. In a table
of values a fourth number follows, the value of the run.
-/

namespace DeliveryCycle.Text

/-- The number that hexadecimal digits stand for. -/
def hexNumber (digits : List Char) : Nat :=
  digits.foldl (fun value digit => value * 16 + (hexValue? digit).getD 0) 0

/-- The numbers of the words of a table. -/
def tableRows (lines : List String) : List (List Nat) :=
  lines.flatMap fun line =>
    (segments ' ' line.toList).map fun word => (segments '-' word).map hexNumber

/-- The codes from a first to a last one in equal steps. -/
structure CodeRun where
  first : Nat
  last : Nat
  step : Nat
deriving DecidableEq, Repr

def CodeRun.contains (run : CodeRun) (code : Nat) : Bool :=
  run.first ≤ code && code ≤ run.last && (code - run.first) % run.step = 0

/-- The run of a word without a value. -/
def CodeRun.ofRow? : List Nat → Option CodeRun
  | [code] => some ⟨code, code, 1⟩
  | [first, last] => some ⟨first, last, 1⟩
  | [first, last, step] => some ⟨first, last, step⟩
  | _ => none

structure CodeSet where
  runs : List CodeRun
deriving DecidableEq, Repr

/-- The set that a table tells. -/
def CodeSet.ofLines (lines : List String) : CodeSet :=
  ⟨(tableRows lines).filterMap CodeRun.ofRow?⟩

def CodeSet.contains (set : CodeSet) (code : Nat) : Bool := set.runs.any (·.contains code)

/-- A run of codes with a value. -/
structure ValuedRun extends CodeRun where
  value : Nat
deriving DecidableEq, Repr

/-- The run of a word with a value. -/
def ValuedRun.ofRow? : List Nat → Option ValuedRun
  | [first, last, step, value] => some ⟨⟨first, last, step⟩, value⟩
  | _ => none

structure CodeValues where
  runs : List ValuedRun
deriving DecidableEq, Repr

/-- The values that a table tells. -/
def CodeValues.ofLines (lines : List String) : CodeValues :=
  ⟨(tableRows lines).filterMap ValuedRun.ofRow?⟩

/-- The run of a code, if it has a value. -/
def CodeValues.find? (values : CodeValues) (code : Nat) : Option ValuedRun :=
  values.runs.find? fun run => run.contains code

end DeliveryCycle.Text
