import DeliveryCycle.Json.Display
import DeliveryCycle.Log.Entry
import DeliveryCycle.Text.Quoted
import DeliveryCycle.Validation.Issue

/-!
# The summary of a run

Every candidate of a run has one of four outcomes. A summary counts the candidates and the outcomes;
`record` adds one outcome to it. A record was written for the outcomes `resolved` and `deployed`.
-/

namespace DeliveryCycle

inductive Outcome where
  /-- No pull request was found. -/
  | unmatched
  /-- A record was written, without a deployment. -/
  | resolved
  /-- A record was written, with a deployment. -/
  | deployed
  /-- The storage failed, and nothing was written. -/
  | failed
deriving DecidableEq, Repr

structure UnknownOutcome where
  word : String
deriving DecidableEq, Repr

def UnknownOutcome.message (error : UnknownOutcome) : String :=
  Text.quoted error.word ++ " is not a valid CandidateOutcome"

def Outcome.word : Outcome → String
  | .unmatched => "unmatched"
  | .resolved => "resolved"
  | .deployed => "deployed"
  | .failed => "failed"

def Outcome.all : List Outcome := [.unmatched, .resolved, .deployed, .failed]

def Outcome.ofWord (word : String) : Except UnknownOutcome Outcome :=
  match Outcome.all.find? fun outcome => outcome.word = word with
  | some outcome => .ok outcome
  | none => .error ⟨word⟩

/-- Whether a record was written. -/
def Outcome.isProcessed (outcome : Outcome) : Bool := outcome = .resolved || outcome = .deployed

/-- Why a value of a summary cannot be set. -/
inductive AssignmentError where
  /-- No counter may be changed. -/
  | frozen (issue : Issue)
  /-- The name stands for something that cannot be set. -/
  | fixed
  /-- The name stands for the class of the summary. -/
  | classRequired (kind : String)
  /-- The name stands for all values with their names. -/
  | valuesRequired (kind : String)
deriving DecidableEq, Repr

/-- What a user reads about a value that cannot be set, besides an issue. -/
def AssignmentError.message? : AssignmentError → Option String
  | .frozen _ | .fixed => none
  | .classRequired kind => some s!"__class__ must be set to a class, not '{kind}' object"
  | .valuesRequired kind => some s!"__dict__ must be set to a dictionary, not a '{kind}'"

/-- The names of a summary that stand for something that cannot be set. -/
def fixedNames : List String := ["__weakref__", "__fields_set__"]

structure RunSummary where
  project : String
  candidates : Nat
  processed : Nat
  withDeployment : Nat
  unmatched : Nat
  failed : Nat
  cancelled : Bool
deriving DecidableEq, Repr

namespace RunSummary

def start (project : String) : RunSummary := ⟨project, 0, 0, 0, 0, 0, false⟩

def tick (condition : Bool) : Nat := if condition then 1 else 0

/-- The summary with one more candidate. -/
def record (summary : RunSummary) (outcome : Outcome) : RunSummary where
  project := summary.project
  candidates := summary.candidates + 1
  processed := summary.processed + tick outcome.isProcessed
  withDeployment := summary.withDeployment + tick (outcome = .deployed)
  unmatched := summary.unmatched + tick (outcome = .unmatched)
  failed := summary.failed + tick (outcome = .failed)
  cancelled := summary.cancelled

/-- The summary of a run that was told to stop. -/
def cancel (summary : RunSummary) : RunSummary := { summary with cancelled := true }

/-- Sets a value of a summary by name, which never changes the summary. A name that begins with an
underscore is none of a counter, and to set it has no effect unless the summary needs it for itself;
any other one is refused. -/
def assign (name : String) (value : Json) : Except AssignmentError Unit :=
  if name.toList.head? ≠ some '_' then .error (.frozen ⟨.frozen, [name]⟩)
  else if fixedNames.contains name then .error .fixed
  else if name = "__class__" then .error (.classRequired value.kindName)
  else if name = "__dict__" && !value.isObject then .error (.valuesRequired value.kindName)
  else .ok ()

def details (summary : RunSummary) : List (String × Log.Detail) :=
  [("project_name", .text summary.project), ("candidates", .int summary.candidates),
    ("processed", .int summary.processed), ("with_deployment", .int summary.withDeployment),
    ("unmatched", .int summary.unmatched), ("failed", .int summary.failed),
    ("cancelled", .bool summary.cancelled)]

def toJson (summary : RunSummary) : Json := (Log.Detail.named summary.details).toJson

end RunSummary

end DeliveryCycle
