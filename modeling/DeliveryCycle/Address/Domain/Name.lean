import DeliveryCycle.Address.Domain.Label

/-!
# Domain names

A domain name is a row of labels with dots between them; there are four kinds of dots. One dot may
stand at the end. `encode` writes a name in ASCII and `decode` reads one; both refuse a name that is
too long and one with a part that is no label.
-/

namespace DeliveryCycle.Address.Domain

inductive NameError where
  | tooLong
  | empty
  | badLabel (error : LabelError)
deriving DecidableEq, Repr

def NameError.message : NameError → String
  | .tooLong => "Domain too long"
  | .empty => "Empty domain"
  | .badLabel error => error.message

/-- The dot of ASCII for every kind of dot, and every other character for itself. -/
def plainDot (character : Char) : Char :=
  if ['\u3002', '\uff0e', '\uff61'].contains character then '.' else character

def greatestName : Nat := 254

/-- The labels of a name, and whether there is a dot behind them. -/
def splitName (name : List Char) : List (List Char) × Bool :=
  let labels := Text.segments '.' (name.map plainDot)
  if labels.getLast? = some [] then (labels.dropLast, true) else (labels, false)

/-- The labels of a name that is not too long, each one read. -/
def readLabels {Label : Type} (read : List Char → Except LabelError Label) (name : List Char) :
    Except NameError (List Label × Bool) := do
  require (name.length ≤ greatestName) .tooLong
  require (!name.isEmpty) .empty
  let (labels, closed) := splitName name
  return (← (labels.mapM read).mapError .badLabel, closed)

def encode (name : List Char) : Except NameError (List Char) := do
  let (labels, closed) ← readLabels encodeLabel name
  let written := Text.joinSegments '.' labels ++ (if closed then ['.'] else [])
  require (written.length + (if closed then 0 else 1) ≤ greatestName) .tooLong
  return written

/-- The labels that a name in ASCII stands for. -/
def decode (name : List Char) : Except NameError (List (List Nat)) := do
  return (← readLabels decodeLabel name).1

end DeliveryCycle.Address.Domain
