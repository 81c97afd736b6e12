import EventTables.Proofs.Schema.Migration
import EventTables.Proofs.Schema.Safety

/-!
# Execution of Configurations

What the plan and the migration of a configuration make of a database.

Both send texts, and a text is only worth something if it is read as the
statement that it was made of. That takes names that are allowed, and a statement
that cannot fail takes a realizable table. Validation sees to the first and to
half of the second, in the configuration that it accepts as in the one that it
leaves. What it does not look at is whether unique groups name columns of their
table, so that is a condition here. It is one on declared tables only, since
merging keeps it.

## Main definitions

* `Config.Executable`: All declared tables can be executed.

## Theorems

* `realizable_mergeOf`: Realizable tables merge into realizable ones.
* `executable_of_validate`: Validation leads to configurations that can be
  executed, but for their groups.
* `runAll_ddl`: The plan succeeds, and brings the catalog in line with the merged
  tables.
* `migrate_executor`: The migration succeeds, and brings it in line with the
  declared ones.
-/

namespace EventTables

/-- Realizable tables merge into realizable ones. The groups are those of one
    declaration, and its columns are all there. -/
theorem realizable_mergeOf (declared : List Table) (merged : Table)
    (hmerge : MergeOf declared merged) (hdecl : ∀ t ∈ declared, t.Realizable) :
    merged.Realizable := by
  rcases hmerge.top with ⟨t, ht, _, hunique, _, hnodup⟩
  refine ⟨hnodup (hdecl t ht).columns, fun group hgroup name hname => ?_⟩
  rw [hunique] at hgroup
  exact (hmerge.names name).mpr ⟨t, ht, (hdecl t ht).groups group hgroup name hname⟩

namespace Config

/-- All declared tables have texts that are read back and statements that
    succeed. -/
def Executable (c : Config) : Prop :=
  ∀ t ∈ c.declaredTables, t.NamesAllowed ∧ t.Realizable

/-- A configuration that validation accepts, or one that it leaves, can be executed
    if the groups of its tables name only columns of theirs. -/
theorem executable_of_validate (c : Config) (h : c.validate.2 = .ok ()) (r : Config)
    (hr : r = c ∨ r = c.validate.1) (hgroups : ∀ ig ∈ r.integrations, ig.table.GroupsWithin) :
    r.Executable := by
  intro t ht
  rcases List.mem_map.mp ht with ⟨ig, hig, rfl⟩
  -- Names are checked before derivation, columns after it. Either way the other
  -- configuration has the same property.
  rcases hr with rfl | rfl
  · rcases (validate_ok_iff r).mp h with ⟨hnames, hrefs⟩
    have hwell := (Integration.derive_checkReferences_ok_iff ig).mp (hrefs ig hig)
    exact ⟨(hnames.1 ig hig).2, hwell.columns, hgroups ig hig⟩
  · have hwithin := hgroups ig hig
    rcases mem_validate_fst c h ig hig with ⟨declared, _, rfl, hnames, hwell⟩
    exact ⟨namesAllowed_derive declared hnames,
      (Integration.nodup_columnNames_derive declared).mpr hwell.columns, hwithin⟩

/-- The plan of an executable configuration succeeds on every catalog. -/
theorem runAll_ddl (c : Config) (hc : c.Executable) (start : Catalog) :
    Catalog.executor.runAll start c.ddl =
      (.ok (), start.withTables (mergedList c.declaredTables)) := by
  have hmerged : ∀ t ∈ mergedList c.declaredTables, t.NamesAllowed ∧ t.Realizable := by
    intro t ht
    have hmerge := mergeOf_mem_mergedList _ t ht
    have hdecl : ∀ d ∈ c.declaredTables.filter (·.name == t.name),
        d.NamesAllowed ∧ d.Realizable :=
      fun d hd => hc d (List.mem_filter.mp hd).1
    exact ⟨namesAllowed_mergeOf _ t hmerge fun d hd => (hdecl d hd).1,
      realizable_mergeOf _ t hmerge fun d hd => (hdecl d hd).2⟩
  have htexts : c.ddl = (mergedList c.declaredTables).flatMap Table.ddl := by
    rw [ddl, plan_eq_flatMap, List.map_flatMap]
    rfl
  rw [htexts]
  exact Catalog.runAll_tables start _ hmerged

/-- So does its migration. -/
theorem migrate_executor (c : Config) (hc : c.Executable) (start : Catalog) :
    c.migrate Catalog.executor start = (.ok (), start.withTables c.declaredTables) := by
  rw [migrate, migrateAll_ok_iff, ← Catalog.runAll_tables start c.declaredTables hc,
    declaredTables, List.flatMap_map]

end Config

end EventTables
