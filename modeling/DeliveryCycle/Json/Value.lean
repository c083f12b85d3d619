import DeliveryCycle.Number.Binary64
import DeliveryCycle.Text.Surrogate

/-!
# JSON values

The values that requests, answers and structured log lines are made of. An object is a list of
named fields in the order in which they were put in. `setField` is the way to put one in: a name
that is already there keeps its place and gets the new value.

A text that was read may hold a surrogate without a partner, which no string can hold. As a value it
is `unpaired`. As a name it is kept beside the value, as `unpairedName`; the field is then listed
under the name with the replacement character in the place of the surrogate.
-/

namespace DeliveryCycle

/-- A JSON value; numbers without fraction and exponent are integers of any size. -/
inductive Json where
  | null
  | bool (value : Bool)
  | int (value : Int)
  | real (value : Binary64)
  | string (value : String)
  | unpaired (codes : List Nat)
  | unpairedName (codes : List Nat) (value : Json)
  | array (items : List Json)
  | object (fields : List (String × Json))
deriving Repr, Inhabited

/-- Puts a named value into a list of fields: in the place of its name, or at the end. -/
def setField {ν α : Type} [DecidableEq ν] (fields : List (ν × α)) (name : ν) (value : α) :
    List (ν × α) :=
  match fields with
  | [] => [(name, value)]
  | field :: rest =>
      if field.1 = name then (name, value) :: rest else field :: setField rest name value

/-- Puts all fields of the second list into the first, one after the other. -/
def setFields {ν α : Type} [DecidableEq ν] (fields updates : List (ν × α)) : List (ν × α) :=
  updates.foldl (fun fields update => setField fields update.1 update.2) fields

def getField? {ν α : Type} [DecidableEq ν] (fields : List (ν × α)) (name : ν) : Option α :=
  (fields.find? fun field => field.1 = name).map (·.2)

@[simp] theorem getField?_nil {ν α : Type} [DecidableEq ν] (name : ν) :
    getField? ([] : List (ν × α)) name = none := rfl

namespace Json

/-- The value of a field of an object. -/
def field? : Json → String → Option Json
  | .object fields, name => getField? fields name
  | _, _ => none

def isObject : Json → Bool
  | .object _ => true
  | _ => false

def ofInt? : Option Int → Json
  | some value => .int value
  | none => .null

def ofText? : Option String → Json
  | some value => .string value
  | none => .null

def ofReal? : Option Binary64 → Json
  | some value => .real value
  | none => .null

/-- Whether a value counts as given: null, false, zero and whatever is empty do not. -/
def isGiven : Json → Bool
  | .null => false
  | .bool value => value
  | .int value => value ≠ 0
  | .real (.finite _ mantissa _) => mantissa ≠ 0
  | .real _ => true
  | .string value => value ≠ ""
  | .unpaired _ => true
  | .unpairedName _ value => value.isGiven
  | .array items => !items.isEmpty
  | .object fields => !fields.isEmpty

end Json

end DeliveryCycle
