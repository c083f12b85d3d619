import DeliveryCycle.Schema.Table

/-!
# Migrations

The program creates and drops its own table only. A migration works on the list of tables that
are there and fails if the table is already there, or not there. When a migration is proposed from
a comparison of the database with the schema, objects of the collectors' tables are left out of
the comparison.
-/

namespace DeliveryCycle.Schema

/-- The kind of an object that a comparison of schemas meets. -/
inductive ObjectKind where
  | table
  | index
  | uniqueConstraint
  | column
  | other
deriving DecidableEq, Repr

def ObjectKind.ofText (word : String) : ObjectKind :=
  if word = "table" then .table
  else if word = "index" then .index
  else if word = "unique_constraint" then .uniqueConstraint
  else if word = "column" then .column
  else .other

/-- Whether an object of a table takes part in a comparison of schemas. -/
def isCompared (kind : ObjectKind) (table : Table) : Bool :=
  kind = .other || table.owner = .program

/-- A step from one version of the database to another. -/
inductive Migration where
  | upgrade
  | downgrade
deriving DecidableEq, Repr

/-- Why a migration does not run. -/
inductive MigrationError where
  | tableExists
  | tableMissing
deriving DecidableEq, Repr

def Migration.run (migration : Migration) (present : List Table) :
    Except MigrationError (List Table) :=
  let isThere := present.any fun table => table.name = cycleRecords.name
  match migration with
  | .upgrade => if isThere then .error .tableExists else .ok (present ++ [cycleRecords])
  | .downgrade =>
      if isThere then .ok (present.filter fun table => table.name ≠ cycleRecords.name)
      else .error .tableMissing

def ColumnKind.definition : ColumnKind → String
  | .text length => s!"VARCHAR({length})"
  | .integer => "INTEGER"
  | .timestamp => "DATETIME"

end DeliveryCycle.Schema
