import EventTables.Table.Basic

/-!
# Statements

The statements that bring a database in line with a table.

Every statement says `if not exists`, so it can be run on any database any
number of times. A table is created, then each column is added, for a table
that was there before without it, and then each unique group that has a column
gets an index. The index of a group is named after the table and the group's
place among all groups of the table.

## Main definitions

* `Statement`: One of the three kinds of statement.
* `Statement.text`: The statement as SQL.
* `Table.statements`: The statements of a table.
* `Table.ddl`: Their texts.
-/

namespace EventTables

/-- A statement that changes a schema. -/
inductive Statement where
  /-- Creates a table, unless there is one of the name. -/
  | createTable (table : String) (columns : List Column)
  /-- Adds a column to a table, unless it has one of the name. -/
  | addColumn (table : String) (column : Column)
  /-- Creates a unique index, unless there is one of the name. -/
  | createIndex (index table : String) (columns : List String)
deriving DecidableEq, Inhabited, Repr

/-- A column as it is declared. -/
def Column.declaration (c : Column) : String :=
  c.name ++ " " ++ c.type

/-- The statement as SQL. -/
def Statement.text : Statement → String
  | .createTable table columns =>
    "create table if not exists " ++ table ++ "(" ++
      ", ".intercalate (columns.map Column.declaration) ++ ")"
  | .addColumn table column =>
    "alter table " ++ table ++ " add column if not exists " ++ column.declaration
  | .createIndex index table columns =>
    "create unique index if not exists " ++ index ++ " on " ++ table ++ " (" ++
      ", ".intercalate columns ++ ")"

namespace Table

/-- The name of the index of the unique group at a place. -/
def indexName (t : Table) (place : Nat) : String :=
  if place = 0 then "u_" ++ t.name else "u_" ++ t.name ++ "_" ++ toString place

/-- The index statements of groups, the first of them at a place. An empty
    group has no index. -/
def indexStatements (t : Table) : Nat → List (List String) → List Statement
  | _, [] => []
  | place, group :: groups =>
    (if group.isEmpty then [] else [.createIndex (t.indexName place) t.name group]) ++
      indexStatements t (place + 1) groups

/-- The statements that bring a database in line with the table. -/
def statements (t : Table) : List Statement :=
  .createTable t.name t.columns :: t.columns.map (.addColumn t.name) ++
    t.indexStatements 0 t.unique

/-- The texts of the table's statements. -/
def ddl (t : Table) : List String :=
  t.statements.map Statement.text

end Table

end EventTables
