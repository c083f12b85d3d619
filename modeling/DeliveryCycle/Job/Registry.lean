import DeliveryCycle.Json.Value
import DeliveryCycle.Schema.Table

/-!
# The registered jobs

The jobs that a workflow service can start, the stages of other programs that have to be finished
before, and the data that these stages have to leave.
-/

namespace DeliveryCycle.Job

def calculationName : String := "calculate_business_cycle_time"

def enrichmentName : String := "enrich_work_items"

def pipelineName : String := "run_business_cycle_pipeline"

def registered : List String := [pipelineName, calculationName, enrichmentName]

/-- The stages that have to be finished before a run. -/
def runAfter : List String := ["dora", "refdiff"]

/-- A table that a run needs, with what one of its columns should hold. -/
structure RequiredData where
  table : String
  column : String
  expected : String
deriving DecidableEq, Repr

def requiredData : List RequiredData :=
  [⟨Schema.deployments.name, "result", "SUCCESS"⟩,
    ⟨Schema.pullRequests.name, "merged_date", "not null"⟩]

def RequiredData.toJson (required : RequiredData) : Json :=
  .object [("model", .string required.table),
    ("requiredFields", .object [("column", .string required.column),
      ("expectedValue", .string required.expected)])]

end DeliveryCycle.Job
