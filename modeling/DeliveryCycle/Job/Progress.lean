/-!
# Progress of a job

A job counts the candidates it has worked on and prints a line whenever the count is a multiple of
one hundred.
-/

namespace DeliveryCycle.Job

/-- A count of candidates with the label that its lines begin with. -/
structure ProgressCounter where
  label : String
  count : Int
deriving DecidableEq, Repr

namespace ProgressCounter

/-- The number of candidates between two lines. -/
def interval : Int := 100

def start (label : String) : ProgressCounter := ⟨label, 0⟩

/-- The lines printed at the present count. -/
def lines (counter : ProgressCounter) : List String :=
  if counter.count % interval = 0 then
    [s!"[{counter.label}] Progress: {counter.count} candidates"]
  else []

/-- The counter after some more candidates. -/
def add (counter : ProgressCounter) (increment : Int) : ProgressCounter :=
  { counter with count := counter.count + increment }

/-- The lines printed while candidates are counted one by one. -/
def linesFor (counter : ProgressCounter) : (candidates : Nat) → List String
  | 0 => []
  | candidates + 1 =>
      let counter := counter.add 1
      counter.lines ++ linesFor counter candidates

/-- Increments with the counts they lead to and the lines printed on the way. -/
def trace (counter : ProgressCounter) : (increments : List Int) → List (Int × List String)
  | [] => []
  | increment :: rest =>
      let counter := counter.add increment
      (counter.count, counter.lines) :: trace counter rest

end ProgressCounter

end DeliveryCycle.Job
