import EventTables.Schema.Catalog
import EventTables.Proofs.Schema.Statement
import EventTables.Proofs.Table.Union

/-!
# Laws of Catalogs

What the statements of tables make of a catalog, whatever it holds before.

The statements of one table cover for each other. Where the table is missing, the
first of them creates it with all of its columns, and the others find nothing to
do. Where it is there, the first does nothing and the others add what is missing.
Both ways end at the same catalog, `withTable`, in which what was there comes
before what is declared. So the statements of many tables amount to one
`withTable` after another, and every question about the outcome is one about that
fold: what was there first stays, and then the first declaration counts.

A create statement needs columns without repetition, and an index needs its
columns. `Realizable` asks for both, and nothing else can fail.

## Main definitions

* `Table.Realizable`: A database can be brought in line with the table.
* `Table.type?`, `Table.index?`: What a table declares under a name.
* `Catalog.columnType?`: The type of a column of a table.
* `Catalog.withIndexes`: The catalog with the indexes of statements.
* `Catalog.withTable`, `Catalog.withTables`: The catalog brought in line.

## Theorems

* `applyAll_statements`: The statements of a realizable table succeed.
* `applyAll_flatMap_statements`: So do those of any number of them.
* `isSome_tables_withTables`, `isSome_columnType?_withTables`: Which tables and
  columns there are afterwards.
* `columnType?_withTables`, `indexes_withTables`: Of which types the columns are,
  and which indexes there are.
* `eq_of_agree`: Catalogs that agree on every name are equal.
-/

namespace EventTables

/-- The index that a statement declares under a name. -/
def Statement.index? (name : String) : Statement → Option (String × List String)
  | .createTable _ _ => none
  | .addColumn _ _ => none
  | .createIndex index table columns => if index = name then some (table, columns) else none

namespace Table

/-- A table that a database can be brought in line with. -/
structure Realizable (t : Table) : Prop where
  columns : t.columnNames.Nodup
  groups : t.GroupsWithin

/-- The type that the table declares for a column. -/
def type? (t : Table) (column : String) : Option String :=
  Catalog.declared t.columns column

/-- The index that the table declares under a name. -/
def index? (t : Table) (name : String) : Option (String × List String) :=
  (t.indexStatements 0 t.unique).findSome? (Statement.index? name)

end Table

namespace Catalog

/-- The type of a column, if the table is there and has it. -/
def columnType? (c : Catalog) (table column : String) : Option String :=
  (c.tables table).bind fun types => types column

/-- The catalog with the indexes of statements, where what was there stays. -/
def withIndexes (c : Catalog) (stmts : List Statement) : Catalog :=
  { c with indexes := fun i => (c.indexes i).or (stmts.findSome? (Statement.index? i)) }

/-- The catalog with a table and its indexes, where what was there stays. -/
def withTable (c : Catalog) (t : Table) : Catalog where
  tables n :=
    if n = t.name then some fun column => (c.columnType? t.name column).or (t.type? column)
    else c.tables n
  indexes i := (c.indexes i).or (t.index? i)

/-- The catalog with several tables, one after the other. -/
def withTables (c : Catalog) (ts : List Table) : Catalog :=
  ts.foldl withTable c

/-! ### Declared columns -/

-- What was there comes first, so a new entry counts only where there was none.
theorem or_entry {α : Type} (before : String → Option α) (key : String) (value : α) :
    (fun name => (before name).or (if name = key then some value else none)) =
      if (before key).isSome = true then before
      else fun name => if name = key then some value else before name := by
  by_cases h : (before key).isSome = true
  · rw [if_pos h]
    funext name
    by_cases hname : name = key
    · rw [hname, Option.or_of_isSome h]
    · rw [if_neg hname, Option.or_none]
  · rw [if_neg h]
    funext name
    by_cases hname : name = key
    · rw [if_pos hname, if_pos hname, hname, Option.not_isSome_iff_eq_none.mp h, Option.none_or]
    · rw [if_neg hname, if_neg hname, Option.or_none]

theorem declared_cons (column : Column) (columns : List Column) (name : String) :
    declared (column :: columns) name =
      if name = column.name then some column.type else declared columns name := by
  unfold declared
  rw [List.find?_cons]
  by_cases h : name = column.name
  · rw [if_pos h, beq_iff_eq.mpr h.symm]
    rfl
  · rw [if_neg h, beq_eq_false_iff_ne.mpr (Ne.symm h)]

theorem declared_append (first second : List Column) (name : String) :
    declared (first ++ second) name = (declared first name).or (declared second name) := by
  unfold declared
  rw [List.find?_append, Option.map_or]

theorem isSome_declared (columns : List Column) (name : String) :
    (declared columns name).isSome = true ↔ name ∈ columns.map (·.name) := by
  induction columns with
  | nil => simp only [declared, List.find?_nil, Option.map_none, Option.isSome_none,
      Bool.false_eq_true, List.map_nil, List.not_mem_nil]
  | cons column columns ih =>
      rw [declared_cons, List.map_cons, List.mem_cons]
      by_cases h : name = column.name
      · simp only [h, if_true, Option.isSome_some, true_or]
      · simp only [h, if_false, ih, false_or]

end Catalog

/-! ### Declared indexes -/

namespace Table

-- The statements of groups are made of the table's name and nothing else of it.
theorem indexStatements_congr (t u : Table) (hname : t.name = u.name) (place : Nat)
    (groups : List (List String)) :
    t.indexStatements place groups = u.indexStatements place groups := by
  induction groups generalizing place with
  | nil => rfl
  | cons group groups ih =>
      rw [indexStatements, indexStatements, ih, indexName, indexName, hname]

theorem index?_congr (t u : Table) (hname : t.name = u.name) (hunique : t.unique = u.unique)
    (index : String) : t.index? index = u.index? index := by
  rw [index?, index?, indexStatements_congr t u hname, hunique]

theorem exists_of_index? (t : Table) (index : String) (x : String × List String)
    (h : t.index? index = some x) :
    ∃ place group, t.unique[place]? = some group ∧ group ≠ [] ∧ t.indexName place = index := by
  rcases List.exists_of_findSome?_eq_some h with ⟨s, hs, hx⟩
  rcases (mem_indexStatements t 0 t.unique s).mp hs with ⟨place, group, hplace, hne, rfl⟩
  rw [Nat.zero_add] at hx
  exact ⟨place, group, hplace, hne, (Option.ite_none_right_eq_some.mp hx).1⟩

end Table

namespace Catalog

/-! ### The three kinds of statement -/

theorem setTable_self (c : Catalog) (name : String) (types : ColumnTypes)
    (h : c.tables name = some types) : c.setTable name types = c := by
  have htables : (fun n => if n = name then some types else c.tables n) = c.tables := by
    funext n
    by_cases hn : n = name
    · rw [if_pos hn, hn, h]
    · rw [if_neg hn]
  rw [setTable, htables]

theorem setTable_setTable (c : Catalog) (name : String) (first second : ColumnTypes) :
    (c.setTable name first).setTable name second = c.setTable name second := by
  have htables : (fun n => if n = name then some second else
      if n = name then some first else c.tables n) =
      fun n => if n = name then some second else c.tables n := by
    funext n
    by_cases hn : n = name
    · rw [if_pos hn, if_pos hn]
    · rw [if_neg hn, if_neg hn, if_neg hn]
  simp only [setTable, htables]

theorem tables_setTable_self (c : Catalog) (name : String) (types : ColumnTypes) :
    (c.setTable name types).tables name = some types :=
  if_pos rfl

/-- Creating a table succeeds where there is one, and where the columns are not
    repeated. -/
theorem apply_createTable (c : Catalog) (table : String) (columns : List Column)
    (hcolumns : (columns.map (·.name)).Nodup) :
    c.apply (.createTable table columns) =
      some (c.setTable table ((c.tables table).getD (declared columns))) := by
  rw [apply]
  cases h : c.tables table with
  | none => rw [Option.isSome_none, if_neg Bool.false_ne_true, if_pos hcolumns, Option.getD_none]
  | some types =>
      rw [Option.isSome_some, if_pos rfl, Option.getD_some, setTable_self c table types h]

/-- Adding a column to a table that is there succeeds, and a column that is there
    keeps its type. -/
theorem apply_addColumn (c : Catalog) (table : String) (types : ColumnTypes) (column : Column) :
    (c.setTable table types).apply (.addColumn table column) =
      some (c.setTable table fun name => (types name).or (declared [column] name)) := by
  have hdeclared : declared [column] =
      fun name => if name = column.name then some column.type else none :=
    funext fun name => declared_cons column [] name
  rw [hdeclared, or_entry, apply, tables_setTable_self]
  simp only [setTable_setTable]
  by_cases h : (types column.name).isSome = true
  · rw [if_pos h, if_pos h]
  · rw [if_neg h, if_neg h]

/-- Adding columns one after the other. Of several with one name the first is
    added. -/
theorem applyAll_addColumns (c : Catalog) (table : String) (types : ColumnTypes)
    (columns : List Column) :
    (c.setTable table types).applyAll (columns.map (.addColumn table)) =
      some (c.setTable table fun name => (types name).or (declared columns name)) := by
  -- The types grow with every column, so they are general in the induction.
  induction columns generalizing types with
  | nil =>
      have htypes : (fun name => (types name).or (declared [] name)) = types :=
        funext fun name => Option.or_none
      rw [htypes]
      rfl
  | cons column columns ih =>
      rw [List.map_cons, applyAll, List.foldlM_cons, apply_addColumn]
      refine (ih _).trans ?_
      simp only [Option.or_assoc, ← declared_append, List.singleton_append]

theorem applyAll_append (c : Catalog) (first second : List Statement) :
    c.applyAll (first ++ second) = (c.applyAll first).bind fun d => d.applyAll second :=
  List.foldlM_append

theorem withIndexes_nil (c : Catalog) : c.withIndexes [] = c := by
  have hindexes : (fun i => (c.indexes i).or (List.findSome? (Statement.index? i) [])) =
      c.indexes := funext fun i => Option.or_none
  rw [withIndexes, hindexes]

theorem withIndexes_append (c : Catalog) (first second : List Statement) :
    (c.withIndexes first).withIndexes second = c.withIndexes (first ++ second) := by
  simp only [withIndexes, List.findSome?_append, Option.or_assoc]

/-- Creating an index succeeds where its columns are there, and an index that is
    there stays. -/
theorem apply_createIndex (c : Catalog) (index table : String) (columns : List String)
    (hcolumns : c.hasColumns table columns = true) :
    c.apply (.createIndex index table columns) =
      some (c.withIndexes [.createIndex index table columns]) := by
  simp only [withIndexes, List.findSome?_singleton, Statement.index?, eq_comm (a := index)]
  rw [or_entry, apply, if_pos hcolumns]
  by_cases h : (c.indexes index).isSome = true
  · rw [if_pos h, if_pos h]
  · rw [if_neg h, if_neg h, setIndex]

-- Creating an index changes no table, so the columns stay there throughout.
theorem applyAll_createIndexes (c : Catalog) (table : String) (types : ColumnTypes)
    (htypes : c.tables table = some types) (stmts : List Statement)
    (hstmts : ∀ s ∈ stmts, ∃ index columns, s = .createIndex index table columns ∧
      ∀ name ∈ columns, (types name).isSome = true) :
    c.applyAll stmts = some (c.withIndexes stmts) := by
  induction stmts generalizing c with
  | nil => exact congrArg some (withIndexes_nil c).symm
  | cons s rest ih =>
      rcases List.forall_mem_cons.mp hstmts with ⟨⟨index, columns, rfl, hcolumns⟩, hrest⟩
      have hhas : c.hasColumns table columns = true := by
        rw [hasColumns, htypes]
        exact List.all_eq_true.mpr hcolumns
      rw [applyAll, List.foldlM_cons, apply_createIndex c index table columns hhas]
      refine (ih (c.withIndexes [.createIndex index table columns]) htypes hrest).trans ?_
      rw [withIndexes_append, List.singleton_append]

/-! ### The statements of tables -/

/-- The statements of a realizable table bring any catalog in line with it. -/
theorem applyAll_statements (c : Catalog) (t : Table) (ht : t.Realizable) :
    c.applyAll t.statements = some (c.withTable t) := by
  have htypes : ∀ name, (((c.tables t.name).getD (declared t.columns)) name).or
      (declared t.columns name) = (c.columnType? t.name name).or (t.type? name) := by
    intro name
    rw [columnType?, Table.type?]
    -- A table that was created has all columns already, and adding them is idle.
    cases c.tables t.name with
    | none => exact Option.or_self
    | some types => rfl
  -- First the table is created, then it gets its columns, and then its indexes.
  rw [Table.statements, List.cons_append, applyAll, List.foldlM_cons,
    apply_createTable c t.name t.columns ht.columns]
  refine (applyAll_append _ _ _).trans ?_
  rw [applyAll_addColumns, Option.bind_some,
    applyAll_createIndexes _ t.name _ (tables_setTable_self _ _ _)]
  · simp only [htypes]
    rfl
  · -- Its groups name columns of its own, which are there by now.
    intro s hs
    rcases (Table.mem_indexStatements t 0 t.unique s).mp hs with ⟨place, group, hplace, _, rfl⟩
    refine ⟨_, group, rfl, fun name hname => ?_⟩
    have hname := ht.groups group (List.mem_of_getElem? hplace) name hname
    rw [Option.isSome_or, (isSome_declared t.columns name).mpr hname, Bool.or_true]

/-- The statements of any number of realizable tables succeed, whatever the
    catalog holds before and however the tables overlap. -/
theorem applyAll_flatMap_statements (ts : List Table) (hts : ∀ t ∈ ts, t.Realizable)
    (c : Catalog) : c.applyAll (ts.flatMap Table.statements) = some (c.withTables ts) := by
  induction ts generalizing c with
  | nil => rfl
  | cons t rest ih =>
      rcases List.forall_mem_cons.mp hts with ⟨ht, hrest⟩
      rw [List.flatMap_cons, applyAll_append, applyAll_statements c t ht, Option.bind_some,
        ih hrest]
      rfl

/-! ### The outcome under each name -/

theorem tables_withTable (c : Catalog) (t : Table) (name : String) :
    (c.withTable t).tables name = if name = t.name then
      some fun column => (c.columnType? t.name column).or (t.type? column) else c.tables name :=
  rfl

/-- A table is there afterwards exactly if it was before or is among the tables. -/
theorem isSome_tables_withTables (c : Catalog) (ts : List Table) (name : String) :
    ((c.withTables ts).tables name).isSome = true ↔
      (c.tables name).isSome = true ∨ ∃ t ∈ ts, t.name = name := by
  induction ts generalizing c with
  | nil => exact ⟨Or.inl, fun h => h.elim id fun ⟨t, ht, _⟩ => absurd ht List.not_mem_nil⟩
  | cons t rest ih =>
      rw [withTables, List.foldl_cons]
      refine (ih (c.withTable t)).trans ?_
      rw [tables_withTable]
      simp only [List.mem_cons, or_and_right, exists_or, exists_eq_left]
      by_cases h : name = t.name
      · rw [if_pos h, Option.isSome_some]
        exact ⟨fun _ => Or.inr (Or.inl h.symm), fun _ => Or.inl rfl⟩
      · simp only [if_neg h, Ne.symm h, false_or]

theorem isSome_type? (t : Table) (column : String) :
    (t.type? column).isSome = true ↔ column ∈ t.columnNames :=
  isSome_declared t.columns column

theorem mem_columns_of_type? (t : Table) (column type : String)
    (h : t.type? column = some type) : ⟨column, type⟩ ∈ t.columns := by
  rcases Option.map_eq_some_iff.mp h with ⟨c, hfind, rfl⟩
  have hname : c.name = column := by simpa only [beq_iff_eq] using List.find?_some hfind
  rw [← hname]
  exact List.mem_of_find?_eq_some hfind

theorem columnType?_withTable (c : Catalog) (t : Table) (table column : String) :
    (c.withTable t).columnType? table column =
      (c.columnType? table column).or (if t.name = table then t.type? column else none) := by
  rw [columnType?, tables_withTable]
  by_cases h : table = t.name
  · rw [if_pos h, if_pos h.symm, h, Option.bind_some]
  · rw [if_neg h, if_neg (Ne.symm h), Option.or_none, columnType?]

-- If one table adds what it declares behind what was there, then so do many, and
-- the first of them that declares anything counts.
theorem withTables_or {α : Type} (read : Catalog → Option α) (declares : Table → Option α)
    (hread : ∀ c t, read (c.withTable t) = (read c).or (declares t)) (c : Catalog)
    (ts : List Table) : read (c.withTables ts) = (read c).or (ts.findSome? declares) := by
  induction ts generalizing c with
  | nil => exact Option.or_none.symm
  | cons t rest ih =>
      rw [withTables, List.foldl_cons]
      refine (ih (c.withTable t)).trans ?_
      rw [hread, Option.or_assoc, List.findSome?_cons]
      cases declares t <;> rfl

/-- A column that was there keeps its type, and otherwise the first table that
    declares it counts. -/
theorem columnType?_withTables (c : Catalog) (ts : List Table) (table column : String) :
    (c.withTables ts).columnType? table column = (c.columnType? table column).or
      (ts.findSome? fun t => if t.name = table then t.type? column else none) :=
  withTables_or (fun c => c.columnType? table column) _
    (fun c t => columnType?_withTable c t table column) c ts

theorem isSome_findSome?_type? (ts : List Table) (table column : String) :
    (ts.findSome? fun t => if t.name = table then t.type? column else none).isSome = true ↔
      ∃ t ∈ ts, t.name = table ∧ column ∈ t.columnNames := by
  rw [List.findSome?_isSome_iff]
  refine exists_congr fun t => and_congr_right fun _ => ?_
  by_cases h : t.name = table
  · rw [if_pos h, isSome_type?]
    exact ⟨fun hcolumn => ⟨h, hcolumn⟩, fun hcolumn => hcolumn.2⟩
  · rw [if_neg h]
    exact ⟨fun hnone => absurd hnone Bool.false_ne_true, fun hcolumn => absurd hcolumn.1 h⟩

/-- A column is there afterwards exactly if it was before or some table of the name
    declares it. -/
theorem isSome_columnType?_withTables (c : Catalog) (ts : List Table) (table column : String) :
    ((c.withTables ts).columnType? table column).isSome = true ↔
      (c.columnType? table column).isSome = true ∨
        ∃ t ∈ ts, t.name = table ∧ column ∈ t.columnNames := by
  rw [columnType?_withTables, Option.isSome_or, Bool.or_eq_true, isSome_findSome?_type?]

/-- An index that was there stays, and otherwise the first table that declares one
    of the name counts. -/
theorem indexes_withTables (c : Catalog) (ts : List Table) (name : String) :
    (c.withTables ts).indexes name = (c.indexes name).or (ts.findSome? (·.index? name)) :=
  withTables_or (fun c => c.indexes name) _ (fun _ _ => rfl) c ts

-- Two answers are equal if both or neither are there and they do not differ.
theorem eq_of_isSome_iff {α : Type} (o p : Option α) (hsome : o.isSome = true ↔ p.isSome = true)
    (hsame : ∀ x y, o = some x → p = some y → x = y) : o = p := by
  rcases o with _ | x <;> rcases p with _ | y
  · rfl
  · exact absurd (hsome.mpr rfl) Bool.false_ne_true
  · exact absurd (hsome.mp rfl) Bool.false_ne_true
  · exact congrArg some (hsame x y rfl rfl)

/-- Catalogs are equal if they have the same tables, columns and indexes. -/
theorem eq_of_agree (c d : Catalog)
    (htables : ∀ name, (c.tables name).isSome = true ↔ (d.tables name).isSome = true)
    (hcolumns : ∀ table column, c.columnType? table column = d.columnType? table column)
    (hindexes : ∀ name, c.indexes name = d.indexes name) : c = d := by
  have hsame : c.tables = d.tables := by
    funext name
    refine eq_of_isSome_iff _ _ (htables name) fun types types' hc hd => ?_
    have hcolumn := hcolumns name
    simp only [columnType?, hc, hd] at hcolumn
    exact funext hcolumn
  rcases c with ⟨tables, indexes⟩
  rcases d with ⟨tables', indexes'⟩
  rw [Catalog.mk.injEq]
  exact ⟨hsame, funext hindexes⟩

end Catalog

end EventTables
