import EventTables.Schema.Statement

/-!
# Catalogs

What statements do to a database.

A catalog is the part of a database that statements can see: which tables there
are, with the types of their columns, and which indexes. Both are given by name,
as functions, so a catalog may hold anything from before, and two catalogs are
equal when they agree on every name.

A statement does nothing where its table, column or index is there already,
whatever that one looks like. It fails where it would have to create something
impossible: a table with two columns of one name, or a column or an index where
the table or a column is missing.

## Main definitions

* `Catalog`: Tables and indexes by their names.
* `Catalog.apply`: The catalog after a statement, if that succeeds.
* `Catalog.applyAll`: The catalog after several statements.
-/

namespace EventTables

/-- The types of a table's columns, by the names of the columns. -/
abbrev ColumnTypes := String → Option String

/-- The tables and indexes of a database. -/
structure Catalog where
  /-- The tables, by their names. -/
  tables : String → Option ColumnTypes
  /-- The table and the columns of each index, by the names of the indexes. -/
  indexes : String → Option (String × List String)

namespace Catalog

/-- The types of columns as they are declared, of several with one name the
    first. -/
def declared (columns : List Column) : ColumnTypes := fun name =>
  (columns.find? (·.name == name)).map (·.type)

/-- The catalog with a table under a name. -/
def setTable (c : Catalog) (name : String) (types : ColumnTypes) : Catalog :=
  { c with tables := fun n => if n = name then some types else c.tables n }

/-- The catalog with an index under a name. -/
def setIndex (c : Catalog) (name table : String) (columns : List String) : Catalog :=
  { c with indexes := fun n => if n = name then some (table, columns) else c.indexes n }

/-- The table is there with all of the columns. -/
def hasColumns (c : Catalog) (table : String) (columns : List String) : Bool :=
  match c.tables table with
  | some types => columns.all fun name => (types name).isSome
  | none => false

/-- The catalog after a statement, if that succeeds. -/
def apply (c : Catalog) : Statement → Option Catalog
  | .createTable table columns =>
    if (c.tables table).isSome then some c
    else if (columns.map (·.name)).Nodup then some (c.setTable table (declared columns))
    else none
  | .addColumn table column =>
    match c.tables table with
    | none => none
    | some types =>
      if (types column.name).isSome then some c
      else some (c.setTable table fun n => if n = column.name then some column.type else types n)
  | .createIndex index table columns =>
    if (c.indexes index).isSome then some c
    else if c.hasColumns table columns then some (c.setIndex index table columns)
    else none

/-- The catalog after several statements, if all of them succeed. -/
def applyAll (c : Catalog) (stmts : List Statement) : Option Catalog :=
  stmts.foldlM apply c

end Catalog

end EventTables
