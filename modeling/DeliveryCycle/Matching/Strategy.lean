/-!
# Strategies

A lookup has several strategies in order. A strategy either does not apply to its subject or gives
a list of rows, best first. The answer of the lookup is the first row of the first strategy that
has one, together with the name of that strategy.

The main statement, `firstMatch_append`, says that strategies compose: a lookup over two lists of
strategies tries the second list only if the first one finds nothing.
-/

namespace DeliveryCycle

/-- One way to look up rows for a subject. -/
structure Strategy (Subject Row : Type) where
  name : String
  /-- The rows found, best first, or `none` if the strategy does not apply. -/
  rows? : Subject → Option (List Row)

namespace Strategy

variable {Subject Row : Type}

/-- The best row of a strategy, with the strategy's name. -/
def best? (strategy : Strategy Subject Row) (subject : Subject) : Option (String × Row) :=
  (strategy.rows? subject).bind fun rows => rows.head?.map fun row => (strategy.name, row)

/-- Whether a strategy does not apply or finds nothing. -/
def IsIdle (strategy : Strategy Subject Row) (subject : Subject) : Prop :=
  strategy.rows? subject = none ∨ strategy.rows? subject = some []

/-- The best row of the first strategy that finds one. -/
def firstMatch (strategies : List (Strategy Subject Row)) (subject : Subject) :
    Option (String × Row) :=
  strategies.findSome? fun strategy => strategy.best? subject

/-- The strategies with the given names, in the order of the names. -/
def named (strategies : List (Strategy Subject Row)) (names : List String) :
    List (Strategy Subject Row) :=
  names.filterMap fun name => strategies.find? fun strategy => strategy.name = name

theorem best?_eq_none_iff (strategy : Strategy Subject Row) (subject : Subject) :
    strategy.best? subject = none ↔ strategy.IsIdle subject := by
  unfold best? IsIdle
  cases found : strategy.rows? subject with
  | none => simp
  | some rows => cases rows <;> simp

@[simp] theorem firstMatch_nil (subject : Subject) :
    firstMatch ([] : List (Strategy Subject Row)) subject = none := rfl

theorem firstMatch_append (first second : List (Strategy Subject Row)) (subject : Subject) :
    firstMatch (first ++ second) subject =
      (firstMatch first subject).or (firstMatch second subject) :=
  List.findSome?_append

end Strategy

end DeliveryCycle
