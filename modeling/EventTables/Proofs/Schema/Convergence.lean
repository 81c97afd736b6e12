import EventTables.Proofs.Schema.Execution
import Mathlib.Data.List.Nodup

/-!
# Convergence of Plans

A database that a plan was run on is in line with the plan, whatever it was
before.

Every statement of a plan says `if not exists`, so there is no telling in advance
which of them will do anything. What can be told is the outcome. `Covers` is what
a table asks of a catalog: that the table is there, with all of its columns, and
an index for each of its groups. It does not ask for the declared types, since a
column that was there before keeps its own. A catalog that covers a table is not
changed by the statements of that table, and one that was brought in line with
tables covers all of them. That a second run changes nothing is the two facts put
together, and needs no second look at the statements.

## Main definitions

* `Catalog.Covers`: What a table asks of a catalog.
* `Catalog.Preserves`: Nothing of a catalog is lost in another one.

## Theorems

* `withTables_of_covers`: A catalog that covers tables is in line with them.
* `covers_withTables`: A catalog brought in line with tables covers them.
* `preserves_withTables`: Bringing a catalog in line loses nothing.
* `columnType?_mem_mergedList`: The types of a planned table's columns.
* `plan_converges`: The outcome of a plan on any catalog.
-/

namespace EventTables

namespace Table

/-- A table declares an index under exactly the names of its groups that have a
    column. -/
theorem isSome_index?_iff (t : Table) (index : String) :
    (t.index? index).isSome = true ↔
      ∃ place group, t.unique[place]? = some group ∧ group ≠ [] ∧ t.indexName place = index := by
  constructor
  · intro h
    rcases Option.isSome_iff_exists.mp h with ⟨x, hx⟩
    exact exists_of_index? t index x hx
  · rintro ⟨place, group, hplace, hne, rfl⟩
    rw [index?, List.findSome?_isSome_iff]
    refine ⟨.createIndex (t.indexName place) t.name group, ?_, ?_⟩
    · exact (mem_indexStatements t 0 t.unique _).mpr
        ⟨place, group, hplace, hne, by rw [Nat.zero_add]⟩
    · rw [Statement.index?, if_pos rfl, Option.isSome_some]

theorem type?_of_mem (t : Table) (ht : t.columnNames.Nodup) (column : Column)
    (hcolumn : column ∈ t.columns) : t.type? column.name = some column.type := by
  have hsome : (t.type? column.name).isSome = true :=
    (Catalog.isSome_type? t column.name).mpr (List.mem_map_of_mem hcolumn)
  rcases Option.isSome_iff_exists.mp hsome with ⟨type, htype⟩
  -- The column that is found has the name, and no two columns have.
  have hfound := Catalog.mem_columns_of_type? t column.name type htype
  have hsame := List.inj_on_of_nodup_map ht hfound hcolumn rfl
  rw [htype, ← hsame]

end Table

namespace Catalog

/-! ### Catalogs that cover tables -/

/-- The table is there with all of its columns, and so is an index for each of its
    groups. -/
structure Covers (c : Catalog) (t : Table) : Prop where
  table : (c.tables t.name).isSome = true
  columns : ∀ column ∈ t.columnNames, (c.columnType? t.name column).isSome = true
  indexes : ∀ index, (t.index? index).isSome = true → (c.indexes index).isSome = true

-- What is declared only counts where there is nothing, and here there is.
theorem withTable_of_covers (c : Catalog) (t : Table) (h : c.Covers t) : c.withTable t = c := by
  refine eq_of_agree _ _ (fun name => ?_) (fun table column => ?_) (fun index => ?_)
  · rw [tables_withTable]
    by_cases hname : name = t.name
    · rw [if_pos hname, hname]
      exact iff_of_true rfl h.table
    · rw [if_neg hname]
  · rw [columnType?_withTable]
    by_cases hname : t.name = table
    · rw [if_pos hname, ← hname]
      cases htype : t.type? column with
      | none => exact Option.or_none
      | some type =>
          have hcolumn : column ∈ t.columnNames := by
            rw [← isSome_type?, htype, Option.isSome_some]
          exact Option.or_of_isSome (h.columns column hcolumn)
    · rw [if_neg hname, Option.or_none]
  · change (c.indexes index).or (t.index? index) = c.indexes index
    cases hindex : t.index? index with
    | none => exact Option.or_none
    | some x => exact Option.or_of_isSome (h.indexes index (by rw [hindex, Option.isSome_some]))

theorem withTables_of_covers (c : Catalog) (ts : List Table) (h : ∀ t ∈ ts, c.Covers t) :
    c.withTables ts = c := by
  unfold withTables
  induction ts with
  | nil => rfl
  | cons t rest ih =>
      rcases List.forall_mem_cons.mp h with ⟨ht, hrest⟩
      rw [List.foldl_cons, withTable_of_covers c t ht]
      exact ih hrest

/-- A catalog that was brought in line with tables covers each of them, whichever
    of them came first. -/
theorem covers_withTables (c : Catalog) (ts : List Table) (t : Table) (ht : t ∈ ts) :
    (c.withTables ts).Covers t where
  table := (isSome_tables_withTables c ts t.name).mpr (Or.inr ⟨t, ht, rfl⟩)
  columns column hcolumn :=
    (isSome_columnType?_withTables c ts t.name column).mpr (Or.inr ⟨t, ht, rfl, hcolumn⟩)
  indexes index hindex := by
    have hfound : (ts.findSome? (·.index? index)).isSome = true :=
      List.findSome?_isSome_iff.mpr ⟨t, ht, hindex⟩
    rw [indexes_withTables, Option.isSome_or, hfound, Bool.or_true]

/-! ### What was there before -/

/-- Every table, column and index of the one catalog is in the other, with the
    type and the meaning that it had. -/
structure Preserves (before after : Catalog) : Prop where
  tables : ∀ table, (before.tables table).isSome = true → (after.tables table).isSome = true
  types : ∀ table column type,
    before.columnType? table column = some type → after.columnType? table column = some type
  indexes : ∀ name index, before.indexes name = some index → after.indexes name = some index

theorem preserves_withTables (c : Catalog) (ts : List Table) : c.Preserves (c.withTables ts) where
  tables table h := (isSome_tables_withTables c ts table).mpr (Or.inl h)
  types table column type h := by rw [columnType?_withTables, h, Option.some_or]
  indexes name index h := by rw [indexes_withTables, h, Option.some_or]

end Catalog

/-! ### Planned tables -/

-- A column that was not there before gets the type that its merged table has.
theorem columnType?_mem_mergedList (c : Catalog) (declared : List Table) (t : Table)
    (ht : t ∈ mergedList declared) (hnodup : t.columnNames.Nodup) (column : Column)
    (hcolumn : column ∈ t.columns) :
    (c.withTables (mergedList declared)).columnType? t.name column.name =
      some ((c.columnType? t.name column.name).getD column.type) := by
  have htype := Table.type?_of_mem t hnodup column hcolumn
  -- Whatever table of the name is met first, it is this one.
  have hfirst : ((mergedList declared).findSome? fun u =>
      if u.name = t.name then u.type? column.name else none) = some column.type := by
    have hsome := (Catalog.isSome_findSome?_type? (mergedList declared) t.name column.name).mpr
      ⟨t, ht, rfl, List.mem_map_of_mem hcolumn⟩
    rcases Option.isSome_iff_exists.mp hsome with ⟨type, hfound⟩
    rcases List.exists_of_findSome?_eq_some hfound with ⟨u, hu, htypeu⟩
    rcases Option.ite_none_right_eq_some.mp htypeu with ⟨hname, htypeu⟩
    rw [eq_of_name_eq_mergedList declared u t hu ht hname, htype] at htypeu
    rw [hfound, htypeu]
  rw [Catalog.columnType?_withTables, hfirst]
  cases c.columnType? t.name column.name <;> rfl

namespace Config

/-- The plan of a configuration that validation accepts, or that it leaves,
    succeeds on every catalog if unique groups name only columns of their own
    table. It takes nothing away. Afterwards every planned table is there with its
    columns, those that are new with the planned types, and with an index for each
    group; no other table or column is new; and the plan run again changes
    nothing. -/
theorem plan_converges (c : Config) (h : c.validate.2 = .ok ()) (r : Config)
    (hr : r = c ∨ r = c.validate.1) (hgroups : ∀ ig ∈ r.integrations, ig.table.GroupsWithin)
    (start : Catalog) :
    ∃ final : Catalog,
      Catalog.executor.runAll start r.ddl = (.ok (), final) ∧
      start.Preserves final ∧
      (∀ table, (final.tables table).isSome = true ↔
        (start.tables table).isSome = true ∨ (r.mergedTables.find? table).isSome = true) ∧
      (∀ table column, (final.columnType? table column).isSome = true ↔
        (start.columnType? table column).isSome = true ∨
          ∃ t, r.mergedTables.find? table = some t ∧ column ∈ t.columnNames) ∧
      (∀ table t, r.mergedTables.find? table = some t → ∀ column ∈ t.columns,
        final.columnType? table column.name =
          some ((start.columnType? table column.name).getD column.type)) ∧
      (∀ table t, r.mergedTables.find? table = some t →
        ∀ place group, t.unique[place]? = some group → group ≠ [] →
          (final.indexes (t.indexName place)).isSome = true) ∧
      Catalog.executor.runAll final r.ddl = (.ok (), final) := by
  have hexec := executable_of_validate c h r hr hgroups
  have hplanned : ∀ table t, r.mergedTables.find? table = some t ↔
      t ∈ mergedList r.declaredTables ∧ t.name = table :=
    fun table t => find?_mergeTables_iff r.declaredTables table t
  refine ⟨start.withTables (mergedList r.declaredTables), runAll_ddl r hexec start,
    Catalog.preserves_withTables start _, fun table => ?_, fun table column => ?_, ?_, ?_, ?_⟩
  · rw [Catalog.isSome_tables_withTables]
    refine or_congr_right ?_
    rw [Option.isSome_iff_exists]
    exact exists_congr fun t => (hplanned table t).symm
  · rw [Catalog.isSome_columnType?_withTables]
    simp only [hplanned, and_assoc]
  · intro table t hfind column hcolumn
    rcases (hplanned table t).mp hfind with ⟨hmem, rfl⟩
    have hmerge := mergeOf_mem_mergedList r.declaredTables t hmem
    have hreal := realizable_mergeOf _ t hmerge fun d hd =>
      (hexec d ((mem_declarations r.declaredTables _ d).mp hd).1).2
    exact columnType?_mem_mergedList start r.declaredTables t hmem hreal.columns column hcolumn
  · intro table t hfind place group hplace hne
    have hcovers := Catalog.covers_withTables start _ t ((hplanned table t).mp hfind).1
    exact hcovers.indexes _ ((Table.isSome_index?_iff t _).mpr ⟨place, group, hplace, hne, rfl⟩)
  · -- The plan finds everything that it asks for.
    rw [runAll_ddl r hexec, Catalog.withTables_of_covers _ _ fun t ht =>
      Catalog.covers_withTables start _ t ht]

/-- A database from before. A column of the table has another type, and the name of
    the table's index is taken. -/
def occupied : Catalog where
  tables table := if table = "prices" then
    some fun column => if column = "bid" then some "text" else none else none
  indexes name := if name = "u_prices" then some ("quotes", ["bid"]) else none

/-- Two integrations of one table, planned for that database. -/
theorem plan_converges_sharing :
    sharing.validate.2 = .ok () ∧
      (∀ ig ∈ sharing.validate.1.integrations, ig.table.GroupsWithin) ∧
      ∃ final : Catalog,
        Catalog.executor.runAll occupied sharing.validate.1.ddl = (.ok (), final) ∧
        final.columnType? "prices" "bid" = some "text" ∧
        final.columnType? "prices" "ask" = some "numeric" ∧
        final.indexes "u_prices" = some ("quotes", ["bid"]) ∧
        Catalog.executor.runAll final sharing.validate.1.ddl = (.ok (), final) := by
  have hgroups : ∀ ig ∈ sharing.validate.1.integrations, ig.table.GroupsWithin := by
    unfold Table.GroupsWithin
    decide +kernel
  have hplanned : ∃ t, sharing.validate.1.mergedTables.find? "prices" = some t ∧
      (⟨"ask", "numeric"⟩ : Column) ∈ t.columns := ⟨_, rfl, by decide +kernel⟩
  rcases plan_converges sharing rfl _ (Or.inr rfl) hgroups occupied with
    ⟨final, hrun, hkept, _, _, htypes, _, hagain⟩
  rcases hplanned with ⟨t, hfind, hmem⟩
  exact ⟨rfl, hgroups, final, hrun, hkept.types _ _ _ rfl, htypes "prices" t hfind _ hmem,
    hkept.indexes _ _ rfl, hagain⟩

end Config

end EventTables
