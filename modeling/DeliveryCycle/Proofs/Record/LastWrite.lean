import DeliveryCycle.Record.Ledger.Lemmas

/-!
# The ledger as a map

Seen through `recordsOf`, a ledger that upserts filled is a map from tasks to records: every task
has the record that was written last for it, and a task for which none was written has none. The
database does not see to this, because the primary key holds the deployment too. It follows from the
two statements of an upsert and from the transaction around them.

`writtenRecord?` is the record that given values stand for, if an upsert of them is carried out. One
upsert changes the map in one place, by `recordsOf_transact`; the induction over a sequence of
upserts is `recordsOf_transactAll`.
-/

namespace DeliveryCycle

namespace RecordDraft

variable {draft : RecordDraft} {record : CycleRecord Moment}

/-- A draft is read exactly if the key is given and every value is of the type of its column. -/
theorem ofCells_eq_ok_iff {given : CellMap} :
    ofCells given = .ok draft ↔
      (∀ column ∈ readKeys, (getField? given column.name).isSome) ∧
        areTyped given = true ∧ ofTypedCells given = draft := by
  have keyed : (readKeys.find? fun column => (getField? given column.name).isNone) = none ↔
      ∀ column ∈ readKeys, (getField? given column.name).isSome := by
    simp [Option.isSome_iff_ne_none]
  rw [← keyed]
  unfold ofCells
  cases readKeys.find? fun column => (getField? given column.name).isNone with
  | some column => simp
  | none => cases areTyped given <;> simp

/-- The record that a draft is written as, if no statement is refused. -/
def accepted? (draft : RecordDraft) : Option (CycleRecord Moment) :=
  if draft.connectionId.all fitsColumn && draft.measures.all fitsColumn then draft.complete?
  else none

theorem eq_draft_of_complete? (complete : draft.complete? = some record) :
    draft = record.draft := by
  rcases draft with ⟨taskId, deploymentId, connectionId, taskCreatedAt⟩
  cases taskId <;> cases deploymentId <;> cases connectionId <;> cases taskCreatedAt <;>
    simp [complete?] at complete
  subst complete
  rfl

end RecordDraft

/-- The record that values by column name stand for, if an upsert of them is carried out. -/
def writtenRecord? (given : CellMap) : Option (CycleRecord Moment) :=
  (RecordDraft.ofCells given).toOption.bind RecordDraft.accepted?

namespace Ledger

variable {ledger written : Ledger} {draft : RecordDraft} {given : CellMap}
variable {record : CycleRecord Moment}

/-- The ledger after an upsert in a transaction of its own, which goes back to where it began if the
upsert is refused. -/
def transact (ledger : Ledger) (given : CellMap) : Ledger :=
  match ledger.upsertCells given with
  | .ok written => written
  | .error _ => ledger

/-- The ledger after upserts, each in a transaction of its own. -/
def transactAll (ledger : Ledger) (upserts : List CellMap) : Ledger :=
  upserts.foldl transact ledger

theorem dropDisplaced_draft (ledger : Ledger) (record : CycleRecord Moment) :
    ledger.dropDisplaced record.draft = ledger.dropOthers record := by
  apply List.filter_congr
  intro other _
  simp [RecordDraft.displaces, CycleRecord.draft, CycleRecord.task, eq_comm]

/-- The two statements for a complete draft write its record. -/
theorem insertOrReplace_dropDisplaced (complete : draft.complete? = some record) :
    (ledger.dropDisplaced draft).insertOrReplace record = ledger.put record := by
  rw [RecordDraft.eq_draft_of_complete? complete, dropDisplaced_draft]
  rfl

/-- An upsert is carried out exactly if its draft is accepted, and then writes this record. -/
theorem upsert_eq_ok_iff :
    ledger.upsert draft = .ok written ↔
      ∃ record, draft.accepted? = some record ∧ written = ledger.put record := by
  unfold upsert upsertStatements RecordDraft.accepted?
  cases connectionFits : draft.connectionId.all fitsColumn with
  | false => simp [UpsertWork.kept, Except.map]
  | true =>
      cases measuresFit : draft.measures.all fitsColumn with
      | false => simp [UpsertWork.kept, Except.map]
      | true =>
          cases complete : draft.complete? with
          | none => simp [UpsertWork.kept, Except.map]
          | some record =>
              simp [UpsertWork.kept, Except.map, insertOrReplace_dropDisplaced complete, eq_comm]

theorem upsertCells_eq_ok_iff :
    ledger.upsertCells given = .ok written ↔
      ∃ record, writtenRecord? given = some record ∧ written = ledger.put record := by
  unfold upsertCells writtenRecord?
  cases RecordDraft.ofCells given with
  | error error => simp [Except.bind, Except.toOption]
  | ok draft => simpa [Except.bind, Except.toOption] using upsert_eq_ok_iff

theorem transact_of_written (accepted : writtenRecord? given = some record) :
    ledger.transact given = ledger.put record := by
  have carriedOut : ledger.upsertCells given = .ok (ledger.put record) :=
    upsertCells_eq_ok_iff.mpr ⟨record, accepted, rfl⟩
  simp [transact, carriedOut]

/-- Nothing is left of an upsert that is refused, also if its first statement had already run. -/
theorem transact_of_refused (refused : writtenRecord? given = none) :
    ledger.transact given = ledger := by
  unfold transact
  split
  · rename_i written carriedOut
    rcases upsertCells_eq_ok_iff.mp carriedOut with ⟨record, accepted, _⟩
    exact absurd (refused.symm.trans accepted) (by simp)
  · rfl

theorem WellKeyed.transact (wellKeyed : ledger.WellKeyed) (given : CellMap) :
    (ledger.transact given).WellKeyed := by
  cases accepted : writtenRecord? given with
  | none => rwa [transact_of_refused accepted]
  | some record =>
      rw [transact_of_written accepted]
      exact wellKeyed.put record

/-- The last record of a task that a sequence of upserts writes, if they write any. -/
def lastWritten? (upserts : List CellMap) (task : Int × String) : Option (CycleRecord Moment) :=
  ((upserts.filterMap writtenRecord?).filter fun record => record.task = task).getLast?

theorem lastWritten?_cons (given : CellMap) (rest : List CellMap) (task : Int × String) :
    lastWritten? (given :: rest) task =
      (lastWritten? rest task).or (lastWritten? [given] task) := by
  unfold lastWritten?
  rw [← List.singleton_append, List.filterMap_append, List.filter_append, List.getLast?_append]

/-- One upsert changes the map in one place or, if it is refused, nowhere. -/
theorem recordsOf_transact (wellKeyed : ledger.WellKeyed) (given : CellMap)
    (task : Int × String) :
    recordsOf (ledger.transact given) task =
      match lastWritten? [given] task with
      | some record => [record]
      | none => ledger.recordsOf task := by
  cases accepted : writtenRecord? given with
  | none => simp [transact_of_refused accepted, lastWritten?, accepted]
  | some record =>
      rw [transact_of_written accepted, recordsOf_put wellKeyed]
      by_cases same : record.task = task
      · simp [lastWritten?, accepted, same]
      · simp [lastWritten?, accepted, same, Ne.symm same]

theorem recordsOf_transactAll (wellKeyed : ledger.WellKeyed) (upserts : List CellMap)
    (task : Int × String) :
    recordsOf (ledger.transactAll upserts) task =
      match lastWritten? upserts task with
      | some record => [record]
      | none => ledger.recordsOf task := by
  induction upserts generalizing ledger with
  | nil => rfl
  | cons given rest ih =>
      have later : recordsOf (ledger.transactAll (given :: rest)) task = _ :=
        ih (wellKeyed.transact given)
      rw [later, lastWritten?_cons, recordsOf_transact wellKeyed]
      cases lastWritten? rest task <;> rfl

end Ledger

section Values

open Schema

theorem ofText?_eq_of_admits {length : Nat} {cell : Cell} {value : Option String}
    (admitted : (ColumnKind.text length).admits cell) (read : cell.toText?.join = value) :
    Cell.ofText? value = cell := by
  subst read
  cases cell with
  | null | text => rfl
  | integer | moment => contradiction

theorem ofInt?_eq_of_admits {cell : Cell} {value : Option Int}
    (admitted : ColumnKind.integer.admits cell) (read : cell.toInt?.join = value) :
    Cell.ofInt? value = cell := by
  subst read
  cases cell with
  | null | integer => rfl
  | text | moment => contradiction

theorem ofMoment?_eq_of_admits {cell : Cell} {value : Option Moment}
    (admitted : ColumnKind.timestamp.admits cell) (read : cell.toMoment?.join = value) :
    Cell.ofMoment? value = cell := by
  subst read
  cases cell with
  | null | moment => rfl
  | integer | text => contradiction

theorem ofCells_of_written {given : CellMap} {record : CycleRecord Moment}
    (accepted : writtenRecord? given = some record) :
    RecordDraft.ofCells given = .ok record.draft := by
  unfold writtenRecord? at accepted
  cases read : RecordDraft.ofCells given with
  | error error => simp [read, Except.toOption] at accepted
  | ok draft =>
      have written : draft.accepted? = some record := by
        simpa [read, Except.toOption] using accepted
      unfold RecordDraft.accepted? at written
      split at written
      · rw [RecordDraft.eq_draft_of_complete? written]
      · contradiction

/-- A record that is written holds the given values, and null where none is given. -/
theorem cellOf_writtenRecord? {given : CellMap} {record : CycleRecord Moment}
    (accepted : writtenRecord? given = some record) {column : Column}
    (mem : column ∈ cycleRecords.columns) :
    cellOf (namedCells record) column.name = cellOf given column.name := by
  rcases RecordDraft.ofCells_eq_ok_iff.mp (ofCells_of_written accepted) with ⟨_, typed, fields⟩
  have admitted : column.kind.admits (cellOf given column.name) :=
    List.all_eq_true.mp typed column mem
  simp only [RecordDraft.ofTypedCells, RecordDraft.mk.injEq, CycleRecord.draft] at fields
  rcases fields with ⟨taskId, deploymentId, connectionId, taskCreatedAt, firstCommitAt, createdAt,
    mergedAt, deployedAt, metrics⟩
  simp only [cycleRecords, List.mem_cons, List.not_mem_nil, or_false] at mem
  -- One case for each column, in the order of the table.
  rcases mem with rfl | rfl | rfl | rfl | rfl | rfl | rfl | rfl | rfl | rfl | rfl | rfl
  · exact ofText?_eq_of_admits admitted taskId
  · exact ofText?_eq_of_admits admitted deploymentId
  · exact ofInt?_eq_of_admits admitted connectionId
  · exact ofMoment?_eq_of_admits admitted taskCreatedAt
  · exact ofMoment?_eq_of_admits admitted firstCommitAt
  · exact ofMoment?_eq_of_admits admitted createdAt
  · exact ofMoment?_eq_of_admits admitted mergedAt
  · exact ofMoment?_eq_of_admits admitted deployedAt
  · exact ofInt?_eq_of_admits admitted (congrArg Metrics.planning metrics)
  · exact ofInt?_eq_of_admits admitted (congrArg Metrics.coding metrics)
  · exact ofInt?_eq_of_admits admitted (congrArg Metrics.deploying metrics)
  · exact ofInt?_eq_of_admits admitted (congrArg Metrics.total metrics)

end Values

/-- Upserts, each in a transaction of its own, make the ledger a map of tasks: after any sequence of
them a task has one record if any was written for it, the last one, and else none. Whether an upsert
is carried out depends on the given values alone, and the record holds these values, and null where
none is given. An upsert that is carried out leaves its record as the only one of its task, also
where the task had several under different deployments, and the records of all other tasks as they
were. -/
theorem transactAll_maps_tasks :
    (∀ (upserts : List CellMap) (task : Int × String),
      Ledger.recordsOf (Ledger.transactAll [] upserts) task =
        (Ledger.lastWritten? upserts task).toList) ∧
    (∀ (ledger : Ledger) (given : CellMap),
      (∃ written, ledger.upsertCells given = .ok written) ↔ (writtenRecord? given).isSome) ∧
    (∀ (given : CellMap) (record : CycleRecord Moment), writtenRecord? given = some record →
      ∀ column ∈ Schema.cycleRecords.columns,
        cellOf (namedCells record) column.name = cellOf given column.name) ∧
    ∀ (ledger : Ledger) (given : CellMap) (record : CycleRecord Moment), ledger.WellKeyed →
      writtenRecord? given = some record →
        Ledger.recordsOf (ledger.transact given) record.task = [record] ∧
          ∀ task, task ≠ record.task →
            Ledger.recordsOf (ledger.transact given) task = ledger.recordsOf task := by
  refine ⟨fun upserts task => ?_, fun ledger given => ?_, ?_, ?_⟩
  · have empty : Ledger.WellKeyed [] := List.Pairwise.nil
    rw [Ledger.recordsOf_transactAll empty]
    cases Ledger.lastWritten? upserts task <;> rfl
  · constructor
    · rintro ⟨written, carriedOut⟩
      rcases Ledger.upsertCells_eq_ok_iff.mp carriedOut with ⟨record, accepted, _⟩
      exact Option.isSome_iff_exists.mpr ⟨record, accepted⟩
    · intro accepted
      rcases Option.isSome_iff_exists.mp accepted with ⟨record, accepted⟩
      exact ⟨ledger.put record, Ledger.upsertCells_eq_ok_iff.mpr ⟨record, accepted, rfl⟩⟩
  · intro given record accepted column mem
    exact cellOf_writtenRecord? accepted mem
  · intro ledger given record wellKeyed accepted
    rw [Ledger.transact_of_written accepted]
    refine ⟨Ledger.recordsOf_put_self wellKeyed record, fun task differ => ?_⟩
    exact Ledger.recordsOf_put_of_ne ledger differ

/-- Values for a record of one task under some connection and deployment. -/
def taskCells (connectionId : Int) (deployment : Schema.Cell) (planning : Int) : CellMap :=
  [("task_id", .text "T"), ("deployment_id", deployment), ("connection_id", .integer connectionId),
    ("task_created_at", .moment ⟨0⟩), ("planning_time", .integer planning)]

def taskRecord (connectionId : Int) (deploymentId : String) (planning : Int) :
    CycleRecord Moment where
  taskId := "T"
  deploymentId := deploymentId
  connectionId := connectionId
  taskCreatedAt := ⟨0⟩
  firstCommitAt := none
  pullRequestCreatedAt := none
  pullRequestMergedAt := none
  deployedAt := none
  metrics := ⟨some planning, none, none, none⟩

/-- A task gets a deployment, then another one, and loses it again, while it is also written under
another connection. Between these an upsert is refused after its first statement. -/
def handovers : List CellMap :=
  [taskCells 1 (.text "") 1, taskCells 1 (.text "D") 2, taskCells 2 (.text "D") 3,
    taskCells 1 .null 4, taskCells 1 (.text "E") 5, taskCells 1 (.text "") 6]

/-- A ledger in which a task has two records. -/
def doubledLedger : Ledger := [taskRecord 1 "D" 1, taskRecord 1 "E" 2, taskRecord 2 "D" 3]

theorem transactAll_maps_handovers :
    Ledger.recordsOf (Ledger.transactAll [] handovers) (1, "T") = [taskRecord 1 "" 6] ∧
      Ledger.recordsOf (Ledger.transactAll [] handovers) (2, "T") = [taskRecord 2 "D" 3] ∧
      Ledger.recordsOf (doubledLedger.transact (taskCells 1 (.text "") 6)) (1, "T") =
        [taskRecord 1 "" 6] ∧
      Ledger.recordsOf (doubledLedger.transact (taskCells 1 (.text "") 6)) (2, "T") =
        [taskRecord 2 "D" 3] := by
  have wellKeyed : doubledLedger.WellKeyed := by
    unfold Ledger.WellKeyed
    decide
  have accepted : writtenRecord? (taskCells 1 (.text "") 6) = some (taskRecord 1 "" 6) := by
    decide
  rcases transactAll_maps_tasks with ⟨all, _, _, single⟩
  rcases single doubledLedger _ _ wellKeyed accepted with ⟨written, others⟩
  refine ⟨?_, ?_, written, ?_⟩
  · rw [all]
    decide
  · rw [all]
    decide
  · rw [others (2, "T") (by decide)]
    decide

end DeliveryCycle
