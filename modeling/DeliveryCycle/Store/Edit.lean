import DeliveryCycle.Json.Value
import DeliveryCycle.Store.Entity

/-!
# Edits by column name

Collectors add, change and delete rows by the names of columns. An edit works on one table and
either takes effect as a whole or is refused as a whole: a column that must be given may not be
null, no value may be of another type than its column, and no two rows may share a primary key.
-/

namespace DeliveryCycle

open Schema

/-- Why the database refuses a statement. -/
inductive StoreError where
  /-- A column that must be given is null, a value is of another type than its column, or a primary
  key is taken. -/
  | integrity
  /-- An integer does not fit into 64 bits. -/
  | integerTooLarge
  /-- A value is none that a column can be compared with. -/
  | unsupported
deriving DecidableEq, Repr

/-- What a user reads about a refused statement, where the text is not the database's own. -/
def StoreError.message? : StoreError → Option String
  | .integrity | .unsupported => none
  | .integerTooLarge => some "Python int too large to convert to SQLite INTEGER"

/-- Whether an integer fits into a column of 64 bits. The identifiers of connections are such
integers, and one that does not fit is the identifier of no row. -/
def fitsColumn (value : Int) : Bool :=
  let limit : Int := Number.twoPow 63
  value < limit && -limit ≤ value

/-- Lets an integer into a statement if it fits. -/
def checkInteger (value : Int) : Except StoreError Unit :=
  if fitsColumn value then .ok () else .error .integerTooLarge

/-- Values for columns by name. -/
abbrev CellMap := List (String × Cell)

/-- Lets values into a statement if all integers among them fit. -/
def checkCells (cells : CellMap) : Except StoreError Unit :=
  if cells.all fun cell => match cell.2 with
      | .integer value => fitsColumn value
      | _ => true
  then .ok () else .error .integerTooLarge

section

variable {Row : Type} [Entity Row]

def columnNames (Row : Type) [Entity Row] : List String :=
  (Entity.table Row).columns.map (·.name)

/-- A row by column names. -/
def namedCells (row : Row) : CellMap := (columnNames Row).zip (Entity.toCells row)

def cellOf (cells : CellMap) (name : String) : Cell := (getField? cells name).getD .null

/-- The primary key of a row. -/
def keyCells (row : Row) : List Cell :=
  (Entity.table Row).key.map (cellOf (namedCells row))

/-- The row with given values; a value that is missing or null is the initial one of its column. -/
def rowOf? (given : CellMap) : Option Row :=
  Entity.ofCells? ((Entity.table Row).columns.map fun column =>
    match cellOf given column.name with
    | .null => column.initial
    | cell => cell)

def insertRow (rows : List Row) (given : CellMap) : Except StoreError (List Row) := do
  checkCells given
  match (rowOf? given : Option Row) with
  | some row =>
      if rows.any fun other => keyCells other = keyCells row then .error .integrity
      else return rows ++ [row]
  | none => .error .integrity

/-- Puts new rows at the end of a table, all of them or none. -/
def insertRows (rows : List Row) (given : List CellMap) : Except StoreError (List Row) :=
  given.foldlM insertRow rows

def hasCells (condition : CellMap) (row : Row) : Bool :=
  condition.all fun wanted => cellOf (namedCells row) wanted.1 = wanted.2

/-- The row with some values replaced. -/
def replaceCells? (values : CellMap) (row : Row) : Option Row :=
  Entity.ofCells? ((setFields (namedCells row) values).map (·.2))

/-- Whether no two rows share a primary key. -/
def keysDistinct : List Row → Bool
  | [] => true
  | row :: rest => !(rest.any fun other => keyCells other = keyCells row) && keysDistinct rest

/-- Replaces values in all rows that meet a condition; the answer counts these rows. -/
def updateRows (rows : List Row) (condition values : CellMap) :
    Except StoreError (List Row × Nat) := do
  checkCells values
  checkCells condition
  let updated ← rows.mapM fun row =>
    if hasCells condition row then
      match replaceCells? values row with
      | some row => pure row
      | none => .error .integrity
    else pure row
  if keysDistinct updated then return (updated, (rows.filter (hasCells condition)).length)
  else .error .integrity

def deleteRows (rows : List Row) (condition : CellMap) : Except StoreError (List Row × Nat) := do
  checkCells condition
  return (rows.filter fun row => !hasCells condition row,
    (rows.filter (hasCells condition)).length)

end

/-- A change of one table by column names. -/
inductive Edit where
  | insert (rows : List CellMap)
  | update (condition values : CellMap)
  | delete (condition : CellMap)
deriving Repr

/-- The rows after an edit, and how many rows it concerned. -/
def Edit.applyTo {Row : Type} [Entity Row] (edit : Edit) (rows : List Row) :
    Except StoreError (List Row × Nat) :=
  match edit with
  | .insert given => do return (← insertRows rows given, given.length)
  | .update condition values => updateRows rows condition values
  | .delete condition => deleteRows rows condition

namespace Store

def rowsOf? (store : Store) (tableName : String) : Option (List CellMap) :=
  if tableName = workItems.name then some (store.collected.workItems.map namedCells)
  else if tableName = pullRequests.name then some (store.collected.pullRequests.map namedCells)
  else if tableName = pullRequestCommits.name then
    some (store.collected.pullRequestCommits.map namedCells)
  else if tableName = Schema.deployments.name then
    some (store.collected.deployments.map namedCells)
  else if tableName = deploymentCommits.name then
    some (store.collected.deploymentCommits.map namedCells)
  else if tableName = commitsDiffs.name then some (store.collected.rangeCommits.map namedCells)
  else if tableName = projectMappings.name then
    some (store.collected.projectScopes.map namedCells)
  else if tableName = cycleRecords.name then some (store.ledger.map namedCells)
  else none

/-- The store after an edit of a table, and how many rows it concerned. -/
def edit (store : Store) (tableName : String) (edit : Edit) :
    Except StoreError (Store × Nat) := do
  let collected := store.collected
  if tableName = workItems.name then
    let (rows, count) ← edit.applyTo collected.workItems
    return ({ store with collected := { collected with workItems := rows } }, count)
  else if tableName = pullRequests.name then
    let (rows, count) ← edit.applyTo collected.pullRequests
    return ({ store with collected := { collected with pullRequests := rows } }, count)
  else if tableName = pullRequestCommits.name then
    let (rows, count) ← edit.applyTo collected.pullRequestCommits
    return ({ store with collected := { collected with pullRequestCommits := rows } }, count)
  else if tableName = Schema.deployments.name then
    let (rows, count) ← edit.applyTo collected.deployments
    return ({ store with collected := { collected with deployments := rows } }, count)
  else if tableName = deploymentCommits.name then
    let (rows, count) ← edit.applyTo collected.deploymentCommits
    return ({ store with collected := { collected with deploymentCommits := rows } }, count)
  else if tableName = commitsDiffs.name then
    let (rows, count) ← edit.applyTo collected.rangeCommits
    return ({ store with collected := { collected with rangeCommits := rows } }, count)
  else if tableName = projectMappings.name then
    let (rows, count) ← edit.applyTo collected.projectScopes
    return ({ store with collected := { collected with projectScopes := rows } }, count)
  else if tableName = cycleRecords.name then
    let (rows, count) ← edit.applyTo store.ledger
    return ({ store with ledger := rows }, count)
  else return (store, 0)

end Store

end DeliveryCycle
