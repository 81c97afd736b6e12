import EventTables.Proofs.Schema.Execution

/-!
# Agreement of Plans and Migrations

The plan of a configuration and its migration lead to the same schema.

They have nothing in common but the declared tables. The plan merges tables of
one name, the last declaration on top, and runs one table for each name in the
order of the names. A migration runs every declaration in the order in which it
stands. Either way amounts to a list of tables that a catalog is brought in line
with, and such a list matters only by what it declares under each name. So it is
enough to compare the merged tables with the declared ones: they have the same
names and the same columns.

Types and indexes can differ. A merged table has the type and the groups of its
last declaration, while a catalog keeps the first of either. They agree where
there is nothing to choose from, and `Consistent` asks for that.

## Main definitions

* `Consistent`: Declarations do not differ where they overlap.
* `Config.stale`: A database from before.

## Theorems

* `findSome?_eq`: When two lists lead to the same first answer.
* `isSome_tables_mergedList`, `isSome_columnType?_mergedList`: Merging loses no
  table and no column.
* `withTables_mergedList`: Consistent declarations lead to the catalog that their
  merge leads to.
* `plan_agrees_with_migration`: The outcomes of the plan and of the migration.
-/

namespace EventTables

/-- Declarations do not differ where they overlap. Those of one table give shared
    columns one type and have the same groups, and those of different tables have
    no name of an index in common. -/
structure Consistent (declared : List Table) : Prop where
  types : ∀ t ∈ declared, ∀ u ∈ declared, t.name = u.name →
    ∀ a ∈ t.columns, ∀ b ∈ u.columns, a.name = b.name → a.type = b.type
  groups : ∀ t ∈ declared, ∀ u ∈ declared, t.name = u.name → t.unique = u.unique
  indexes : ∀ t ∈ declared, ∀ u ∈ declared, t.name ≠ u.name →
    ∀ i g, t.unique[i]? = some g → g ≠ [] → ∀ j k, u.unique[j]? = some k → k ≠ [] →
      t.indexName i ≠ u.indexName j

-- Two lists lead to the same first answer if both or neither have one, and no
-- answer from one differs from an answer from the other.
theorem findSome?_eq {α β : Type} (f : α → Option β) (l l' : List α)
    (hsome : (l.findSome? f).isSome = true ↔ (l'.findSome? f).isSome = true)
    (hsame : ∀ a ∈ l, ∀ b ∈ l', ∀ x y, f a = some x → f b = some y → x = y) :
    l.findSome? f = l'.findSome? f := by
  refine Catalog.eq_of_isSome_iff _ _ hsome fun x y hx hy => ?_
  rcases List.exists_of_findSome?_eq_some hx with ⟨a, ha, hfa⟩
  rcases List.exists_of_findSome?_eq_some hy with ⟨b, hb, hfb⟩
  exact hsame a ha b hb x y hfa hfb

/-! ### Declared indexes -/

-- Where the tables have one name, they have the same groups. Otherwise the index
-- would have a name that the two tables share.
theorem index?_eq_of_consistent (declared : List Table) (hcons : Consistent declared)
    (t : Table) (ht : t ∈ declared) (u : Table) (hu : u ∈ declared) (index : String)
    (x y : String × List String) (hx : t.index? index = some x) (hy : u.index? index = some y) :
    x = y := by
  by_cases hname : t.name = u.name
  · rw [Table.index?_congr t u hname (hcons.groups t ht u hu hname), hy] at hx
    exact (Option.some.inj hx).symm
  · rcases Table.exists_of_index? t index x hx with ⟨i, g, hi, hg, hindex⟩
    rcases Table.exists_of_index? u index y hy with ⟨j, k, hj, hk, hindex'⟩
    exact absurd (hindex.trans hindex'.symm) (hcons.indexes t ht u hu hname i g hi hg j k hj hk)

theorem exists_index?_eq (declared : List Table) (merged : Table)
    (hmem : merged ∈ mergedList declared) :
    ∃ t ∈ declared, t.name = merged.name ∧ ∀ index, merged.index? index = t.index? index := by
  rcases (mergeOf_mem_mergedList declared merged hmem).top with ⟨t, ht, hname, hunique, _⟩
  exact ⟨t, (List.mem_filter.mp ht).1, hname.symm, Table.index?_congr merged t hname hunique⟩

/-! ### Catalogs in line with merged tables -/

namespace Catalog

theorem isSome_tables_mergedList (c : Catalog) (declared : List Table) (name : String) :
    ((c.withTables (mergedList declared)).tables name).isSome = true ↔
      ((c.withTables declared).tables name).isSome = true := by
  rw [isSome_tables_withTables, isSome_tables_withTables]
  refine or_congr_right ⟨?_, ?_⟩
  · rintro ⟨merged, hmem, rfl⟩
    rcases (mergeOf_mem_mergedList declared merged hmem).top with ⟨t, ht, _⟩
    exact ⟨t, (mem_declarations declared _ t).mp ht⟩
  · rintro ⟨t, ht, rfl⟩
    exact exists_mem_mergedList declared t ht

theorem isSome_columnType?_mergedList (c : Catalog) (declared : List Table)
    (table column : String) :
    ((c.withTables (mergedList declared)).columnType? table column).isSome = true ↔
      ((c.withTables declared).columnType? table column).isSome = true := by
  rw [isSome_columnType?_withTables, isSome_columnType?_withTables, mem_columnNames_mergedList]

/-- Consistent declarations give a column one type, merged or not. -/
theorem columnType?_mergedList (c : Catalog) (declared : List Table) (hcons : Consistent declared)
    (table column : String) :
    (c.withTables (mergedList declared)).columnType? table column =
      (c.withTables declared).columnType? table column := by
  rw [columnType?_withTables, columnType?_withTables]
  refine congrArg (Option.or _) (findSome?_eq _ _ _ ?_ ?_)
  · rw [isSome_findSome?_type?, isSome_findSome?_type?, mem_columnNames_mergedList]
  · -- The column of the merged table is from some declaration of its name.
    intro merged hmem t ht x y hx hy
    rcases Option.ite_none_right_eq_some.mp hx with ⟨hname, hx⟩
    rcases Option.ite_none_right_eq_some.mp hy with ⟨hname', hy⟩
    rcases (mergeOf_mem_mergedList declared merged hmem).columns _
      (mem_columns_of_type? merged column x hx) with ⟨u, hu, hcolumn⟩
    rcases (mem_declarations declared _ u).mp hu with ⟨hu, hsource⟩
    exact hcons.types u hu t ht (hsource.trans (hname.trans hname'.symm)) _ hcolumn _
      (mem_columns_of_type? t column y hy) rfl

/-- Consistent declarations give an index one meaning, merged or not. -/
theorem indexes_mergedList (c : Catalog) (declared : List Table) (hcons : Consistent declared)
    (index : String) :
    (c.withTables (mergedList declared)).indexes index = (c.withTables declared).indexes index := by
  rw [indexes_withTables, indexes_withTables]
  refine congrArg (Option.or _) (findSome?_eq _ _ _ ?_ ?_)
  · rw [List.findSome?_isSome_iff, List.findSome?_isSome_iff]
    constructor
    · rintro ⟨merged, hmem, hsome⟩
      rcases exists_index?_eq declared merged hmem with ⟨t, ht, _, hsame⟩
      rw [hsame] at hsome
      exact ⟨t, ht, hsome⟩
    · -- The merged table may be made of another declaration, but with the same groups.
      rintro ⟨t, ht, hsome⟩
      rcases exists_mem_mergedList declared t ht with ⟨merged, hmem, hname⟩
      rcases exists_index?_eq declared merged hmem with ⟨u, hu, hname', hsame⟩
      have htu : t.name = u.name := (hname'.trans hname).symm
      rw [Table.index?_congr t u htu (hcons.groups t ht u hu htu), ← hsame] at hsome
      exact ⟨merged, hmem, hsome⟩
  · intro merged hmem t ht x y hx hy
    rcases exists_index?_eq declared merged hmem with ⟨u, hu, _, hsame⟩
    rw [hsame] at hx
    exact index?_eq_of_consistent declared hcons u hu t ht index x y hx hy

/-- Consistent declarations lead to the catalog that their merge leads to. -/
theorem withTables_mergedList (c : Catalog) (declared : List Table) (hcons : Consistent declared) :
    c.withTables (mergedList declared) = c.withTables declared :=
  eq_of_agree _ _ (isSome_tables_mergedList c declared) (columnType?_mergedList c declared hcons)
    (indexes_mergedList c declared hcons)

end Catalog

namespace Config

/-- The plan and the migration of a configuration that validation accepts, or that
    it leaves, both succeed on every catalog if unique groups name only columns of
    their own table. They end with the same tables and the same columns, and if
    the declarations are consistent, with the same catalog: types and indexes are
    the same, too. -/
theorem plan_agrees_with_migration (c : Config) (h : c.validate.2 = .ok ()) (r : Config)
    (hr : r = c ∨ r = c.validate.1) (hgroups : ∀ ig ∈ r.integrations, ig.table.GroupsWithin)
    (start : Catalog) :
    ∃ planned migrated : Catalog,
      Catalog.executor.runAll start r.ddl = (.ok (), planned) ∧
      r.migrate Catalog.executor start = (.ok (), migrated) ∧
      (∀ table, (planned.tables table).isSome = true ↔ (migrated.tables table).isSome = true) ∧
      (∀ table column, (planned.columnType? table column).isSome = true ↔
        (migrated.columnType? table column).isSome = true) ∧
      (Consistent r.declaredTables → planned = migrated) := by
  have hexec := executable_of_validate c h r hr hgroups
  exact ⟨_, _, runAll_ddl r hexec start, migrate_executor r hexec start,
    Catalog.isSome_tables_mergedList start r.declaredTables,
    Catalog.isSome_columnType?_mergedList start r.declaredTables,
    Catalog.withTables_mergedList start r.declaredTables⟩

/-- A database from before, in which a column of the table has another type. -/
def stale : Catalog :=
  Catalog.setTable ⟨fun _ => none, fun _ => none⟩ "prices" fun column =>
    if column = "bid" then some "text" else none

/-- Two integrations of one table, run on a database that has a part of it. -/
theorem plan_agrees_with_migration_sharing :
    sharing.validate.2 = .ok () ∧
      (∀ ig ∈ sharing.validate.1.integrations, ig.table.GroupsWithin) ∧
      Consistent sharing.validate.1.declaredTables ∧
      ∃ schema : Catalog,
        Catalog.executor.runAll stale sharing.validate.1.ddl = (.ok (), schema) ∧
        sharing.validate.1.migrate Catalog.executor stale = (.ok (), schema) := by
  have hgroups : ∀ ig ∈ sharing.validate.1.integrations, ig.table.GroupsWithin := by
    unfold Table.GroupsWithin
    decide +kernel
  have hcons : Consistent sharing.validate.1.declaredTables := by
    refine ⟨by decide +kernel, by decide +kernel, ?_⟩
    have hname : ∀ t ∈ sharing.validate.1.declaredTables, t.name = "prices" := by decide +kernel
    intro t ht u hu hne
    exact absurd ((hname t ht).trans (hname u hu).symm) hne
  rcases plan_agrees_with_migration sharing rfl _ (Or.inr rfl) hgroups stale with
    ⟨planned, migrated, hplanned, hmigrated, _, _, hsame⟩
  exact ⟨rfl, hgroups, hcons, planned, hplanned, hsame hcons ▸ hmigrated⟩

end Config

end EventTables
