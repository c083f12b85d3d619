/-!
# Faults

While a run is going on, the storage may fail or the program may break down. `Faults` says for each
task of a connection at which of its steps this happens; without faults everything succeeds. A
failure of the storage concerns one task only, a breakdown ends the run.
-/

namespace DeliveryCycle

structure StorageFailure where
  kind : String
  message : String
deriving DecidableEq, Repr

/-- An error that no one handles. -/
structure Breakdown where
  message : String
deriving DecidableEq, Repr

/-- What goes wrong, by the connection and the identifier of the task that is being processed. -/
structure Faults where
  /-- The cursor over the candidates cannot be opened. -/
  cursor : Option StorageFailure
  /-- The storage fails while the task is being resolved. -/
  resolving : Int × String → Option StorageFailure
  /-- The task is taken for one without a pull request. -/
  overlooked : Int × String → Bool
  /-- The storage fails before the record is written. -/
  beforeWrite : Int × String → Option StorageFailure
  /-- The storage fails after the record was written. -/
  afterWrite : Int × String → Option StorageFailure
  /-- The program breaks down after the record was written. -/
  breakdown : Int × String → Option Breakdown

def Faults.none : Faults where
  cursor := .none
  resolving _ := .none
  overlooked _ := false
  beforeWrite _ := .none
  afterWrite _ := .none
  breakdown _ := .none

end DeliveryCycle
