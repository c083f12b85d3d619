import DeliveryCycle.Json.Value

/-!
# Issues of an input

An input that is refused comes with a list of issues. An issue has a kind and a location: the names
on the way from the whole input to the value that is wrong. Kinds have short names by which callers
tell them apart.
-/

namespace DeliveryCycle

inductive IssueKind where
  /-- The value is not there. -/
  | missing
  /-- The value should be a text. -/
  | textRequired
  /-- The text holds a surrogate without a partner. -/
  | textUnpaired
  /-- The text is empty. -/
  | textTooShort
  /-- The project name has no character that is not blank. -/
  | blankProject
  /-- The input as a whole should be an object. -/
  | objectRequired
  /-- The body of a request should be an object. -/
  | bodyObjectRequired
  /-- The body of a request is no JSON text. -/
  | bodyUnreadable
  /-- The value may not be changed. -/
  | frozen
  /-- The text should stand for an integer. -/
  | integerRequired
  /-- The text is too long to be read as an integer. -/
  | integerTooLong
  /-- The value should be a number of double precision. -/
  | realRequired
  /-- The integer is below the least one allowed. -/
  | tooSmall
  /-- The integer is above the greatest one allowed. -/
  | tooLarge
deriving DecidableEq, Repr

def IssueKind.name : IssueKind → String
  | .missing => "missing"
  | .textRequired => "string_type"
  | .textUnpaired => "string_unicode"
  | .textTooShort => "string_too_short"
  | .blankProject => "value_error"
  | .objectRequired => "model_type"
  | .bodyObjectRequired => "model_attributes_type"
  | .bodyUnreadable => "json_invalid"
  | .frozen => "frozen_instance"
  | .integerRequired => "int_parsing"
  | .integerTooLong => "int_parsing_size"
  | .realRequired => "float_type"
  | .tooSmall => "greater_than_equal"
  | .tooLarge => "less_than_equal"

def IssueKind.message : IssueKind → String
  | .missing => "Field required"
  | .textRequired => "Input should be a valid string"
  | .textUnpaired =>
      "Input should be a valid string, unable to parse raw data as a unicode string"
  | .textTooShort => "String should have at least 1 character"
  | .blankProject => "Value error, project_name must not be blank"
  | .objectRequired => "Input should be a valid dictionary or instance of TaskOptions"
  | .bodyObjectRequired =>
      "Input should be a valid dictionary or object to extract fields from"
  | .bodyUnreadable => "JSON decode error"
  | .frozen => "Instance is frozen"
  | .integerRequired =>
      "Input should be a valid integer, unable to parse string as an integer"
  | .integerTooLong =>
      "Unable to parse input string as an integer, exceeded maximum size"
  | .realRequired => "Input should be a valid number"
  | .tooSmall => "Input should be greater than or equal to 1"
  | .tooLarge => "Input should be less than or equal to 1000"

/-- Whether the name of a kind does not say enough. -/
def IssueKind.needsMessage : IssueKind → Bool
  | .blankProject => true
  | _ => false

/-- A kind and the place where it was met. -/
structure Issue where
  kind : IssueKind
  location : List String
deriving DecidableEq, Repr

def Issue.fields (issue : Issue) : List (String × Json) :=
  [("type", .string issue.kind.name), ("loc", .array (issue.location.map Json.string))]

/-- An issue as data: its kind, its location and, if its kind needs one, a message. -/
def Issue.toJson (issue : Issue) : Json :=
  if issue.kind.needsMessage then
    .object (issue.fields ++ [("msg", .string issue.kind.message)])
  else .object issue.fields

/-- An issue as data with its message and the value that was refused. -/
def Issue.withInput (issue : Issue) (input : Json) : Json :=
  .object (issue.fields ++ [("msg", .string issue.kind.message), ("input", input)])

end DeliveryCycle
