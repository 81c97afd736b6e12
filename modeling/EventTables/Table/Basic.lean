/-!
# Tables

The tables that events are written to: columns with their types, and groups of
columns that together are unique.

A table is a fragment of a schema. Several integrations may each declare their
part of one table, under the same name.

## Main definitions

* `Column`: A name and a column type.
* `Table`: A name, columns and unique groups.
* `Table.hasColumn`, `Table.column?`: Looking up a column by name.
* `Table.addColumn`: The table with one more column.
-/

namespace EventTables

/-- A column: its name and its type, such as `numeric` or `bytea`. -/
structure Column where
  name : String
  type : String
deriving DecidableEq, Inhabited, Repr

/-- A part of a relational table. -/
structure Table where
  name : String
  columns : List Column
  /-- Groups of columns, no two rows alike in all columns of a group. -/
  unique : List (List String)
deriving DecidableEq, Inhabited, Repr

namespace Table

/-- The table of that name without columns. -/
def empty (name : String) : Table := ⟨name, [], []⟩

/-- The names of the columns, in their order. -/
def columnNames (t : Table) : List String :=
  t.columns.map (·.name)

/-- The first column of that name. -/
def column? (t : Table) (name : String) : Option Column :=
  t.columns.find? (·.name == name)

/-- Some column has that name. -/
def hasColumn (t : Table) (name : String) : Bool :=
  t.columns.any (·.name == name)

/-- The table with one more column at the end. -/
def addColumn (t : Table) (c : Column) : Table :=
  { t with columns := t.columns ++ [c] }

/-- The table with one more unique group at the end. -/
def addUnique (t : Table) (group : List String) : Table :=
  { t with unique := t.unique ++ [group] }

end Table

end EventTables
