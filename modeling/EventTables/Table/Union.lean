import EventTables.Table.Basic

/-!
# Union of Tables

Putting two declarations of one table together.

The first declaration is kept as it is, and the columns that only the second
one has are appended to it. Where both declare a column, the type of the first
stays, and a difference in type is reported.

## Main definitions

* `Table.absorb`: The table with a column, unless it has one of that name.
* `Table.union`: The table with the columns of another one.
* `Conflict`: A column declared with two types.
* `Table.conflicts`: The conflicts met on the way to the union.
-/

namespace EventTables

/-- A column that is declared with two types. -/
structure Conflict where
  table : String
  column : String
  /-- The type that stays. -/
  kept : String
  /-- The type that is lost. -/
  dropped : String
deriving DecidableEq, Inhabited, Repr

namespace Table

/-- The table with the column, unless it has one of that name already. -/
def absorb (t : Table) (c : Column) : Table :=
  if t.hasColumn c.name then t else t.addColumn c

/-- The table with the columns of another one that it lacks. Its name and its
    unique groups stay. -/
def union (a b : Table) : Table :=
  b.columns.foldl absorb a

/-- The conflict between a table and one more declaration of a column. -/
def conflict? (t : Table) (c : Column) : Option Conflict :=
  match t.column? c.name with
  | some kept => if kept.type = c.type then none else some ⟨t.name, c.name, kept.type, c.type⟩
  | none => none

/-- The conflicts met while the columns are absorbed one by one. -/
def conflictsWith (t : Table) : List Column → List Conflict
  | [] => []
  | c :: cs => (t.conflict? c).toList ++ conflictsWith (t.absorb c) cs

/-- The conflicts met on the way to the union of two tables. -/
def conflicts (a b : Table) : List Conflict :=
  a.conflictsWith b.columns

end Table

end EventTables
