import DeliveryCycle.Json.Value

/-!
# The environment

All settings come from variables of the environment. A variable that is not set differs from one
that is set to the empty text; most readers treat both alike, and those that do not say so.
-/

namespace DeliveryCycle

/-- The variables that are set, by name. -/
abbrev Environment := List (String × String)

namespace Environment

def get? (environment : Environment) (name : String) : Option String :=
  getField? environment name

/-- The value of a variable that is set to something. -/
def given? (environment : Environment) (name : String) : Option String :=
  (environment.get? name).filter (· ≠ "")

def getD (environment : Environment) (name otherwise : String) : String :=
  (environment.get? name).getD otherwise

def set (environment : Environment) (name value : String) : Environment :=
  setField environment name value

def unset (environment : Environment) (name : String) : Environment :=
  environment.filter fun entry => entry.1 ≠ name

end Environment

end DeliveryCycle
