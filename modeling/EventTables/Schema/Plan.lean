import EventTables.Config.Basic
import EventTables.Log.Notice
import EventTables.Schema.Statement

/-!
# Plans

The tables of a whole configuration.

Several integrations may declare parts of one table. They are put together in
the order of their declaration, and the last declaration counts most: it is the
base, and what was put together before only adds the columns that it lacks. So
the type of a column and the unique groups come from the last declaration. The
plan lists the tables in the order of their names.

## Main definitions

* `mergeTable`: The tables so far, with one more declaration.
* `Config.mergedTables`: One table for each name.
* `Config.mergeConflicts`: The columns declared with two types.
* `Config.ddl`: The statements of all tables.
-/

namespace EventTables

/-- The table that results from one more declaration. -/
def mergedWith (tables : Keyed String Table) (t : Table) : Table :=
  match tables.find? t.name with
  | some earlier => t.union earlier
  | none => t

/-- The tables with one more declaration. -/
def mergeTable (tables : Keyed String Table) (t : Table) : Keyed String Table :=
  tables.put t.name (mergedWith tables t)

/-- The tables of the declarations, under their names. -/
def mergeTables (declared : List Table) : Keyed String Table :=
  declared.foldl mergeTable []

/-- The conflicts met while declarations are added to the tables so far. -/
def mergeConflictsFrom (tables : Keyed String Table) : List Table → List Conflict
  | [] => []
  | t :: rest =>
    (match tables.find? t.name with
      | some earlier => t.conflicts earlier
      | none => []) ++ mergeConflictsFrom (mergeTable tables t) rest

namespace Config

/-- The tables that the integrations declare, in the order of declaration. -/
def declaredTables (c : Config) : List Table :=
  c.integrations.map (·.table)

/-- One table for each name that is declared, in the order of the names. -/
def mergedTables (c : Config) : Keyed String Table :=
  mergeTables c.declaredTables

/-- The columns that are declared with two types, as they are met. -/
def mergeConflicts (c : Config) : List Conflict :=
  mergeConflictsFrom [] c.declaredTables

/-- The statements of all tables, one table after the other. -/
def plan (c : Config) : List Statement :=
  c.mergedTables.flatMap fun entry => entry.2.statements

/-- The texts of the statements of all tables. -/
def ddl (c : Config) : List String :=
  c.plan.map Statement.text

/-- What is reported while the tables are put together. -/
def mergeNotices (c : Config) : List Notice :=
  c.mergeConflicts.map .typeConflict

end Config

end EventTables
