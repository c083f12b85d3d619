import DeliveryCycle.Proofs.Store.Edited

/-!
# What a database holds

A database holds integers of 64 bits and dates up to the year 9999. `RowsStorable` says so of the
rows of one table and `Collected.Storable` of the tables that records are derived from. Whoever
brings in a row gives dates, and an edit refuses other integers; so every store that edits lead to
has this property, by `Collected.Storable.edit`.
-/

namespace DeliveryCycle

open Schema

/-- The first moment after the year 9999. -/
def Time.endOfDates : Nat := Time.daysBeforeYear 10000 * Time.ticksPerDay

def Moment.IsDate (moment : Moment) : Prop := moment.ticks < Time.endOfDates

instance (moment : Moment) : Decidable moment.IsDate :=
  inferInstanceAs (Decidable (moment.ticks < _))

/-- What a column of a database can hold. -/
def Schema.Cell.IsStorable : Cell → Prop
  | .integer value => fitsColumn value = true
  | .moment value => value.IsDate
  | .text _ | .null => True

instance : (cell : Cell) → Decidable cell.IsStorable
  | .integer value => inferInstanceAs (Decidable (fitsColumn value = true))
  | .moment value => inferInstanceAs (Decidable value.IsDate)
  | .text _ | .null => isTrue trivial

/-- Values for columns that can be stored. -/
def CellsStorable (cells : CellMap) : Prop := ∀ entry ∈ cells, entry.2.IsStorable

/-- All moments among values for columns are dates. -/
def GivesDates (cells : CellMap) : Prop :=
  ∀ entry ∈ cells, ∀ moment, entry.2 = .moment moment → moment.IsDate

section Cells

variable {cells updates : CellMap}

theorem cellsStorable_of_checked (checked : checkCells cells = .ok ()) (dates : GivesDates cells) :
    CellsStorable cells := by
  unfold checkCells at checked
  split at checked
  · rename_i fits
    intro entry mem
    have fit := List.all_eq_true.mp fits entry mem
    cases cell : entry.2 with
    | integer value =>
        rw [cell] at fit
        exact fit
    | moment value => exact dates entry mem value cell
    | text value => trivial
    | null => trivial
  · contradiction

theorem isStorable_cellOf (storable : CellsStorable cells) (name : String) :
    (cellOf cells name).IsStorable := by
  unfold cellOf getField?
  cases found : cells.find? fun entry => entry.1 = name with
  | none => trivial
  | some entry => exact storable entry (List.mem_of_find?_eq_some found)

theorem CellsStorable.setField (storable : CellsStorable cells) (name : String) {cell : Cell}
    (cellStorable : cell.IsStorable) : CellsStorable (setField cells name cell) := by
  induction cells with
  | nil =>
      intro entry mem
      rw [List.mem_singleton.mp mem]
      exact cellStorable
  | cons first rest ih =>
      have restStorable : CellsStorable rest := fun entry mem =>
        storable entry (List.mem_cons_of_mem _ mem)
      unfold DeliveryCycle.setField
      intro entry mem
      split at mem
      · rcases List.mem_cons.mp mem with rfl | restMem
        · exact cellStorable
        · exact restStorable entry restMem
      · rcases List.mem_cons.mp mem with rfl | restMem
        · exact storable _ List.mem_cons_self
        · exact ih restStorable entry restMem

theorem CellsStorable.setFields (storable : CellsStorable cells)
    (updatesStorable : CellsStorable updates) : CellsStorable (setFields cells updates) := by
  unfold DeliveryCycle.setFields
  induction updates generalizing cells with
  | nil => exact storable
  | cons update rest ih =>
      apply ih (storable.setField update.1 (updatesStorable update List.mem_cons_self))
      intro entry mem
      exact updatesStorable entry (List.mem_cons_of_mem _ mem)

end Cells

def RowsStorable {Row : Type} [Entity Row] (rows : List Row) : Prop :=
  ∀ row ∈ rows, ∀ cell ∈ Entity.toCells row, cell.IsStorable

instance {Row : Type} [Entity Row] (rows : List Row) : Decidable (RowsStorable rows) :=
  inferInstanceAs (Decidable (∀ row ∈ rows, ∀ cell ∈ Entity.toCells row, cell.IsStorable))

/-- A table whose rows hold the cells from which they are read, and whose initial values can be
stored. -/
class FaithfulEntity (Row : Type) [Entity Row] : Prop where
  toCells_of_ofCells? : ∀ {cells : List Cell} {row : Row},
    Entity.ofCells? cells = some row → Entity.toCells row = cells
  initial : ∀ column ∈ (Entity.table Row).columns, column.initial.IsStorable

section Rows

variable {Row : Type} [Entity Row] {rows changed : List Row} {count : Nat}

theorem RowsStorable.mapM {change : Row → Except StoreError Row} (storable : RowsStorable rows)
    (keeps : ∀ row next, (∀ cell ∈ Entity.toCells row, cell.IsStorable) → change row = .ok next →
      ∀ cell ∈ Entity.toCells next, cell.IsStorable)
    (accepted : rows.mapM change = .ok changed) : RowsStorable changed := by
  induction rows generalizing changed with
  | nil =>
      simp only [List.mapM_nil, pure, Except.pure, Except.ok.injEq] at accepted
      exact accepted ▸ storable
  | cons row rest ih =>
      simp only [List.mapM_cons, bind, Except.bind] at accepted
      split at accepted
      · contradiction
      · rename_i next changedFirst
        split at accepted
        · contradiction
        · rename_i others changedRest
          simp only [pure, Except.pure, Except.ok.injEq] at accepted
          subst accepted
          have restStorable : RowsStorable others :=
            ih (fun other mem => storable other (List.mem_cons_of_mem _ mem)) changedRest
          intro other mem
          rcases List.mem_cons.mp mem with rfl | later
          · exact keeps row _ (storable row List.mem_cons_self) changedFirst
          · exact restStorable other later

theorem RowsStorable.deleteRows {condition : CellMap} (storable : RowsStorable rows)
    (accepted : DeliveryCycle.deleteRows rows condition = .ok (changed, count)) :
    RowsStorable changed := by
  simp only [DeliveryCycle.deleteRows, bind, Except.bind] at accepted
  split at accepted
  · contradiction
  · simp only [pure, Except.pure, Except.ok.injEq, Prod.mk.injEq] at accepted
    rw [← accepted.1]
    intro row mem
    exact storable row (List.mem_filter.mp mem).1

variable [FaithfulEntity Row]

theorem isStorable_of_ofCells? {cells : List Cell} {row : Row}
    (read : Entity.ofCells? cells = some row) (storable : ∀ cell ∈ cells, cell.IsStorable) :
    ∀ cell ∈ Entity.toCells row, cell.IsStorable := by
  rw [FaithfulEntity.toCells_of_ofCells? read]
  exact storable

theorem isStorable_of_rowOf? {given : CellMap} {row : Row} (storable : CellsStorable given)
    (read : (rowOf? given : Option Row) = some row) :
    ∀ cell ∈ Entity.toCells row, cell.IsStorable := by
  apply isStorable_of_ofCells? read
  intro cell mem
  rcases List.mem_map.mp mem with ⟨column, columnMem, rfl⟩
  split
  · exact FaithfulEntity.initial column columnMem
  · exact isStorable_cellOf storable column.name

theorem isStorable_of_replaceCells? {values : CellMap} {row replaced : Row}
    (storable : ∀ cell ∈ Entity.toCells row, cell.IsStorable)
    (valuesStorable : CellsStorable values)
    (read : replaceCells? values row = some replaced) :
    ∀ cell ∈ Entity.toCells replaced, cell.IsStorable := by
  have named : CellsStorable (namedCells row) := fun entry mem =>
    storable entry.2 (List.of_mem_zip mem).2
  apply isStorable_of_ofCells? read
  intro cell mem
  rcases List.mem_map.mp mem with ⟨entry, entryMem, rfl⟩
  exact named.setFields valuesStorable entry entryMem

theorem RowsStorable.insertRow {given : CellMap} (storable : RowsStorable rows)
    (dates : GivesDates given) (accepted : DeliveryCycle.insertRow rows given = .ok changed) :
    RowsStorable changed := by
  simp only [DeliveryCycle.insertRow, bind, Except.bind] at accepted
  split at accepted
  · contradiction
  · rename_i checked
    split at accepted
    · rename_i row read
      split at accepted
      · contradiction
      · simp only [pure, Except.pure, Except.ok.injEq] at accepted
        subst accepted
        intro other mem
        rcases List.mem_append.mp mem with earlier | added
        · exact storable other earlier
        · rw [List.mem_singleton.mp added]
          exact isStorable_of_rowOf? (cellsStorable_of_checked checked dates) read
    · contradiction

theorem RowsStorable.insertRows {given : List CellMap} (storable : RowsStorable rows)
    (dates : ∀ cells ∈ given, GivesDates cells)
    (accepted : DeliveryCycle.insertRows rows given = .ok changed) : RowsStorable changed := by
  induction given generalizing rows with
  | nil =>
      simp only [DeliveryCycle.insertRows, List.foldlM_nil, pure, Except.pure,
        Except.ok.injEq] at accepted
      exact accepted ▸ storable
  | cons first rest ih =>
      simp only [DeliveryCycle.insertRows, List.foldlM_cons, bind, Except.bind] at accepted ih
      split at accepted
      · contradiction
      · rename_i next firstAccepted
        refine ih (storable.insertRow (dates first List.mem_cons_self) firstAccepted) ?_ accepted
        exact fun cells mem => dates cells (List.mem_cons_of_mem _ mem)

theorem RowsStorable.updateRows {condition values : CellMap} (storable : RowsStorable rows)
    (dates : GivesDates values)
    (accepted : DeliveryCycle.updateRows rows condition values = .ok (changed, count)) :
    RowsStorable changed := by
  simp only [DeliveryCycle.updateRows, bind, Except.bind] at accepted
  split at accepted
  · contradiction
  · rename_i checked
    split at accepted
    · contradiction
    · split at accepted
      · contradiction
      · rename_i updated replacedAll
        split at accepted
        · simp only [pure, Except.pure, Except.ok.injEq, Prod.mk.injEq] at accepted
          rw [← accepted.1]
          apply storable.mapM _ replacedAll
          intro row next rowStorable replaced
          split at replaced
          · split at replaced
            · rename_i row' read
              rw [← Except.ok.inj replaced]
              exact isStorable_of_replaceCells? rowStorable
                (cellsStorable_of_checked checked dates) read
            · contradiction
          · rw [← Except.ok.inj replaced]
            exact rowStorable
        · contradiction

/-- All moments that an edit brings in are dates. -/
def Edit.BringsDates : Edit → Prop
  | .insert given => ∀ cells ∈ given, GivesDates cells
  | .update _ values => GivesDates values
  | .delete _ => True

theorem RowsStorable.applyTo {edit : Edit} (storable : RowsStorable rows)
    (dates : edit.BringsDates) (accepted : edit.applyTo rows = .ok (changed, count)) :
    RowsStorable changed := by
  cases edit with
  | insert given =>
      simp only [Edit.applyTo, bind, Except.bind] at accepted
      split at accepted
      · contradiction
      · rename_i inserted insertedAll
        simp only [pure, Except.pure, Except.ok.injEq, Prod.mk.injEq] at accepted
        exact accepted.1 ▸ storable.insertRows dates insertedAll
  | update condition values => exact storable.updateRows dates accepted
  | delete condition => exact storable.deleteRows accepted

end Rows

section Entities

theorem Schema.Cell.ofInt?_of_toInt? {cell : Cell} {value : Option Int}
    (read : cell.toInt? = some value) : ofInt? value = cell := by
  cases cell <;> cases read <;> rfl

theorem Schema.Cell.ofText?_of_toText? {cell : Cell} {value : Option String}
    (read : cell.toText? = some value) : ofText? value = cell := by
  cases cell <;> cases read <;> rfl

theorem Schema.Cell.ofMoment?_of_toMoment? {cell : Cell} {value : Option Moment}
    (read : cell.toMoment? = some value) : ofMoment? value = cell := by
  cases cell <;> cases read <;> rfl

instance : FaithfulEntity WorkItem where
  toCells_of_ofCells? := by
    intro cells row read
    simp only [Entity.ofCells?] at read
    split at read
    · rcases Option.bind_eq_some_iff.mp read with ⟨number, numberRead, made⟩
      rw [← Option.some.inj made]
      simp [Entity.toCells, Cell.ofInt?_of_toInt? numberRead]
    · contradiction
  initial := by decide

instance : FaithfulEntity PullRequest where
  toCells_of_ofCells? := by
    intro cells row read
    simp only [Entity.ofCells?] at read
    split at read
    · rcases Option.bind_eq_some_iff.mp read with ⟨mergedAt, mergedRead, made⟩
      rcases Option.bind_eq_some_iff.mp made with ⟨mergeCommit, commitRead, made⟩
      rw [← Option.some.inj made]
      simp [Entity.toCells, Cell.ofMoment?_of_toMoment? mergedRead,
        Cell.ofText?_of_toText? commitRead]
    · contradiction
  initial := by decide

instance : FaithfulEntity PullRequestCommit where
  toCells_of_ofCells? := by
    intro cells row read
    simp only [Entity.ofCells?] at read
    split at read
    · rw [← Option.some.inj read]
      rfl
    · contradiction
  initial := by decide

instance : FaithfulEntity Deployment where
  toCells_of_ofCells? := by
    intro cells row read
    simp only [Entity.ofCells?] at read
    split at read
    · rcases Option.bind_eq_some_iff.mp read with ⟨finishedAt, finishedRead, made⟩
      rw [← Option.some.inj made]
      simp [Entity.toCells, Cell.ofMoment?_of_toMoment? finishedRead]
    · contradiction
  initial := by decide

end Entities

/-- The rows that records are derived from can be stored. -/
structure Collected.Storable (collected : Collected) : Prop where
  workItems : RowsStorable collected.workItems
  pullRequests : RowsStorable collected.pullRequests
  pullRequestCommits : RowsStorable collected.pullRequestCommits
  deployments : RowsStorable collected.deployments

namespace Collected

theorem storable_empty : Collected.empty.Storable := by
  constructor <;> exact fun _ mem => absurd mem List.not_mem_nil

/-- An edit that brings in dates keeps what a database can hold. -/
theorem Storable.edit {store edited : Store} {tableName : String} {edit : Edit} {count : Nat}
    (storable : store.collected.Storable) (dates : edit.BringsDates)
    (accepted : store.edit tableName edit = .ok (edited, count)) :
    edited.collected.Storable := by
  cases Store.edited_of_edit accepted with
  | workItems applied =>
      exact { storable with workItems := storable.workItems.applyTo dates applied }
  | pullRequests applied =>
      exact { storable with pullRequests := storable.pullRequests.applyTo dates applied }
  | pullRequestCommits applied =>
      exact { storable with
        pullRequestCommits := storable.pullRequestCommits.applyTo dates applied }
  | deployments applied =>
      exact { storable with deployments := storable.deployments.applyTo dates applied }
  -- The other collected tables hold neither integers nor moments that a record takes over.
  | deploymentCommits _ | rangeCommits _ | projectScopes _ => exact { storable with }
  | ledger _ | unknown _ => exact storable

end Collected

end DeliveryCycle
