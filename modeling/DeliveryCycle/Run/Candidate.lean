import DeliveryCycle.Matching.Resolution
import DeliveryCycle.Record.Ledger
import DeliveryCycle.Run.Faults
import DeliveryCycle.Run.Summary

/-!
# Processing a candidate

A candidate is resolved, measured and written inside a savepoint, all of it or nothing: if the
storage fails at any step, what was written is rolled back, the failure goes to the log and the run
goes on with the next candidate. A breakdown ends the run and leaves no ledger.
-/

namespace DeliveryCycle

def runLogger : String := "engine"

def failureEntry (item : WorkItem) (failure : StorageFailure) : Log.Entry :=
  .detailed .warning runLogger s!"Failed to process task {item.id}: {failure.message}"
    [("task_id", .text item.id), ("connection_id", .int item.connectionId),
      ("error_type", .text failure.kind)]

/-- The outcome of a candidate whose record was written. -/
def Correlation.outcome (correlation : Correlation Moment) : Outcome :=
  if correlation.deployment.isSome then .deployed else .resolved

inductive Interruption where
  | storage (failure : StorageFailure)
  | breakdown (error : Breakdown)
deriving DecidableEq, Repr

/-- The work on a candidate inside its savepoint: how it ended, the ledger with all that was written
until then, and what went to the log. -/
structure CandidateWork where
  result : Except Interruption Outcome
  ledger : Ledger
  log : List Log.Entry

/-- What processing a candidate gave, and what it wrote to the log. -/
structure CandidateResult where
  result : Except Breakdown (Outcome × Ledger)
  log : List Log.Entry

/-- Writes the record of a candidate that was resolved. The storage may fail before or after it is
written; what was written until then is in the ledger. -/
def writeRecord (faults : Faults) (ledger : Ledger) (item : WorkItem)
    (correlation : Correlation Moment) : Except Interruption Outcome × Ledger :=
  match faults.beforeWrite item.key with
  | some failure => (.error (.storage failure), ledger)
  | none =>
      let written := ledger.put correlation.momentRecord
      match faults.afterWrite item.key, faults.breakdown item.key with
      | some failure, _ => (.error (.storage failure), written)
      | none, some error => (.error (.breakdown error), written)
      | none, none => (.ok correlation.outcome, written)

/-- Resolves a candidate of a project and writes its record; nothing is written for a task without a
pull request. -/
def workOn (faults : Faults) (collected : Collected) (project : String) (ledger : Ledger)
    (item : WorkItem) : CandidateWork :=
  match faults.resolving item.key with
  | some failure => ⟨.error (.storage failure), ledger, []⟩
  | none =>
      if faults.overlooked item.key then ⟨.ok .unmatched, ledger, []⟩
      else
        let resolution := resolve .usual collected project item
        match resolution.correlation with
        | none => ⟨.ok .unmatched, ledger, resolution.log⟩
        | some correlation =>
            let (result, ledger) := writeRecord faults ledger item correlation
            ⟨result, ledger, resolution.log⟩

/-- Closes the savepoint of a candidate, which was opened over a given ledger. Work that ended
counts; if the storage failed, the given ledger is back and the log tells why. -/
def CandidateWork.close (work : CandidateWork) (opened : Ledger) (item : WorkItem) :
    CandidateResult :=
  match work.result with
  | .ok outcome => ⟨.ok (outcome, work.ledger), work.log⟩
  | .error (.storage failure) => ⟨.ok (.failed, opened), work.log ++ [failureEntry item failure]⟩
  | .error (.breakdown error) => ⟨.error error, work.log⟩

/-- Works on a candidate of a project inside a savepoint. -/
def processCandidate (faults : Faults) (collected : Collected) (project : String)
    (ledger : Ledger) (item : WorkItem) : CandidateResult :=
  (workOn faults collected project ledger item).close ledger item

end DeliveryCycle
