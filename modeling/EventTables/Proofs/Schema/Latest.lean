import EventTables.Proofs.Schema.Merge
import EventTables.Proofs.Store.Effective
import EventTables.Proofs.Validation

/-!
# Last Declarations

The integration that a merged table has its unique groups from.

Columns are put together from all integrations that declare a table. Unique groups
are not: a merged table has those of the last declaration, whatever the others
say. So a question about the indexes of a plan is one about a single integration
for each table, and it can be asked of the configuration as it was declared, since
derivation leaves every table its name and every declaration its place.

## Main definitions

* `Config.lastDeclaring?`: The last integration that declares a table.
* `Config.Provides`: Some integration of a table has a column.

## Theorems

* `find?_mergeTables_unique`: The groups of a merged table.
* `exists_last_of_merged`, `exists_merged_of_last`: A merged table and the last
  integration that declares it.
* `lastDeclaring?_validate`: Validation derives the last declarations in their
  places.
* `mem_columnNames_merged`: The columns of a merged table, told of the configuration
  as it was declared.
-/

namespace EventTables

theorem unique_over (t : Table) (earlier : Option Table) : (t.over earlier).unique = t.unique := by
  cases earlier with
  | none => rfl
  | some below => exact Table.union_unique t below

/-- A merged table has the groups of the last declaration of its name. -/
theorem find?_mergeTables_unique (declared : List Table) (name : String) :
    ((mergeTables declared).find? name).map (·.unique) =
      (latest? (·.name) declared name).map (·.unique) := by
  -- Only the declaration at the end is merged last, so the induction takes it off
  -- there.
  induction declared using List.reverseRec with
  | nil => rfl
  | append_singleton init t ih =>
      have hlast : mergeTables (init ++ [t]) = mergeTable (mergeTables init) t := by
        rw [mergeTables, List.foldl_append]
        rfl
      rw [hlast, latest?_concat, find?_mergeTable]
      by_cases h : t.name = name
      · rw [if_pos h, if_pos (beq_iff_eq.mpr h), Option.map_some, Option.map_some, unique_over]
      · rw [if_neg h, if_neg fun heq => h (beq_iff_eq.mp heq), ih]

namespace Config

/-- The last integration that declares the table. -/
def lastDeclaring? (c : Config) (table : String) : Option Integration :=
  latest? (·.table.name) c.integrations table

theorem mem_of_lastDeclaring? (c : Config) (table : String) (ig : Integration)
    (h : c.lastDeclaring? table = some ig) : ig ∈ c.integrations ∧ ig.table.name = table :=
  mem_of_latest? h

/-- A table that some integration declares has a last one. -/
theorem exists_lastDeclaring? (c : Config) (ig : Integration) (hig : ig ∈ c.integrations) :
    ∃ last, c.lastDeclaring? ig.table.name = some last := by
  rcases h : c.lastDeclaring? ig.table.name with _ | last
  · rw [lastDeclaring?, latest?_eq_none_iff] at h
    exact absurd (List.mem_map_of_mem hig) h
  · exact ⟨last, rfl⟩

theorem find?_mergedTables_unique (c : Config) (table : String) :
    (c.mergedTables.find? table).map (·.unique) =
      (c.lastDeclaring? table).map (·.table.unique) := by
  rw [mergedTables, find?_mergeTables_unique, declaredTables, latest?_map, Option.map_map]
  rfl

/-- Every merged table has its groups from the last integration that declares
    it. -/
theorem exists_last_of_merged (c : Config) (table : String) (merged : Table)
    (h : c.mergedTables.find? table = some merged) :
    ∃ last, c.lastDeclaring? table = some last ∧ merged.unique = last.table.unique := by
  have hunique := c.find?_mergedTables_unique table
  rw [h, Option.map_some] at hunique
  rcases Option.map_eq_some_iff.mp hunique.symm with ⟨last, hlast, heq⟩
  exact ⟨last, hlast, heq.symm⟩

/-- Every last integration leads to a merged table with its groups. -/
theorem exists_merged_of_last (c : Config) (table : String) (last : Integration)
    (h : c.lastDeclaring? table = some last) :
    ∃ merged, c.mergedTables.find? table = some merged ∧ merged.unique = last.table.unique := by
  have hunique := c.find?_mergedTables_unique table
  rw [h, Option.map_some] at hunique
  exact Option.map_eq_some_iff.mp hunique

/-! ### After validation -/

/-- An accepting pass derives the last declaration of a table and leaves it the last
    one. -/
theorem lastDeclaring?_validate (c : Config) (h : c.validate.2 = .ok ()) (table : String) :
    c.validate.1.lastDeclaring? table = (c.lastDeclaring? table).map Integration.derive := by
  rw [lastDeclaring?, validate_fst c h, latest?_map]
  simp only [Integration.derive_table_name]
  rfl

-- The groups of a merged table are told of the last declaration before derivation, in
-- both directions.
theorem exists_merged_validate (c : Config) (h : c.validate.2 = .ok ()) (table : String)
    (last : Integration) (hlast : c.lastDeclaring? table = some last) :
    ∃ merged, c.validate.1.mergedTables.find? table = some merged ∧
      merged.unique = last.derive.table.unique := by
  refine c.validate.1.exists_merged_of_last table last.derive ?_
  rw [lastDeclaring?_validate c h, hlast, Option.map_some]

theorem exists_last_validate (c : Config) (h : c.validate.2 = .ok ()) (table : String)
    (merged : Table) (hmerged : c.validate.1.mergedTables.find? table = some merged) :
    ∃ last, c.lastDeclaring? table = some last ∧ merged.unique = last.derive.table.unique := by
  rcases c.validate.1.exists_last_of_merged table merged hmerged with ⟨derived, hderived, heq⟩
  rw [lastDeclaring?_validate c h] at hderived
  rcases Option.map_eq_some_iff.mp hderived with ⟨last, hlast, rfl⟩
  exact ⟨last, hlast, heq⟩

/-- Some integration declares the column for the table, or derivation provides for it
    there. -/
def Provides (c : Config) (table name : String) : Prop :=
  ∃ ig ∈ c.integrations, ig.table.name = table ∧
    (name ∈ ig.table.columnNames ∨ ig.Requires name)

/-- The columns of a merged table are those that integrations declare for it and
    those that derivation provides for them. -/
theorem mem_columnNames_merged (c : Config) (h : c.validate.2 = .ok ()) (table : String)
    (merged : Table) (hmerged : c.validate.1.mergedTables.find? table = some merged)
    (name : String) : name ∈ merged.columnNames ↔ c.Provides table name := by
  have hmerge := (mergeOf_mem _ table merged (Keyed.mem_of_find? table merged _ hmerged)).2
  rw [hmerge.names, declaredTables, validate_fst c h, List.map_map]
  constructor
  · rintro ⟨t, ht, hname⟩
    rcases (mem_declarations _ table t).mp ht with ⟨ht, htable⟩
    rcases List.mem_map.mp ht with ⟨ig, hig, rfl⟩
    exact ⟨ig, hig, (Integration.derive_table_name ig).symm.trans htable,
      (Integration.mem_columnNames_derive ig name).mp hname⟩
  · rintro ⟨ig, hig, htable, hname⟩
    refine ⟨ig.derive.table, (mem_declarations _ table _).mpr ⟨List.mem_map.mpr ⟨ig, hig, rfl⟩, ?_⟩,
      (Integration.mem_columnNames_derive ig name).mpr hname⟩
    exact (Integration.derive_table_name ig).trans htable

end Config

end EventTables
