import EventTables.Proofs.Schema.Merge
import EventTables.Proofs.Validation
import Mathlib.Data.List.Nodup

/-!
# Coverage

Whatever an accepted integration writes has one column to go to, in its own
table and in the merged one.

Validation sees to the integration's own table. The merged table is made later,
of tables that validation never compared with each other, and it must not undo
what validation established. It does not, for two reasons: a merge loses no
column name, so there is at least one column, and it repeats no name that its
last declaration does not repeat, so there is at most one.

## Main definitions

* `Integration.CoveredBy`: Everything written has exactly one column.

## Theorems

* `coveredBy_of_writesWithin`: Without repeated names, a column that is there is
  there once.
* `nodup_merged`: Merging tables that repeat no name repeats none.
* `validate_covers`: Coverage by the own table and by the merged one.
-/

namespace EventTables

namespace Integration

/-- The table has exactly one column for every selected input and for every
    block field. -/
def CoveredBy (ig : Integration) (t : Table) : Prop :=
  (∀ i ∈ ig.event.selected, ∃ name, i.target? = some name ∧ t.columnNames.count name = 1) ∧
    ∀ b ∈ ig.block, t.columnNames.count b.column = 1

theorem coveredBy_of_writesWithin (ig : Integration) (t : Table) (ht : t.columnNames.Nodup)
    (hwrites : ig.WritesWithin (· ∈ t.columnNames)) : ig.CoveredBy t := by
  refine ⟨fun i hi => ?_, fun b hb => ?_⟩
  · rcases List.mem_filter.mp hi with ⟨hmem, hsel⟩
    rcases Option.isSome_iff_exists.mp hsel with ⟨name, hname⟩
    exact ⟨name, hname, List.count_eq_one_of_mem ht (hwrites.1 i hmem name hname)⟩
  · exact List.count_eq_one_of_mem ht (hwrites.2 b hb).2

end Integration

-- Tables that repeat no column name merge into tables that repeat none.
theorem nodup_merged (declared : List Table) (hdecl : ∀ t ∈ declared, t.columnNames.Nodup)
    (name : String) (merged : Table) (hmem : (name, merged) ∈ mergeTables declared) :
    merged.columnNames.Nodup := by
  rcases (mergeOf_mem declared name merged hmem).2.top with ⟨t, ht, _, _, _, hnodup⟩
  exact hnodup (hdecl t (List.mem_filter.mp ht).1)

-- What an accepted integration writes stays covered when its table is merged
-- with any others of the name.
theorem coveredBy_merged (declared : List Table) (ig : Integration) (hig : ig.table ∈ declared)
    (hdecl : ∀ t ∈ declared, t.columnNames.Nodup)
    (hwrites : ig.WritesWithin (· ∈ ig.table.columnNames)) :
    ∃ merged, (mergeTables declared).find? ig.table.name = some merged ∧
      merged.columnNames.Nodup ∧ ig.CoveredBy merged := by
  rcases mem_mergeTables declared ig.table hig with ⟨merged, hfind, hmem⟩
  have hnodup := nodup_merged declared hdecl _ merged hmem
  -- No column of the integration is lost on the way to the merged table.
  have hkept : ∀ name ∈ ig.table.columnNames, name ∈ merged.columnNames := by
    intro name hname
    refine ((mergeOf_mem declared _ merged hmem).2.names name).mpr ⟨ig.table, ?_, hname⟩
    exact List.mem_filter.mpr ⟨hig, beq_self_eq_true ig.table.name⟩
  refine ⟨merged, hfind, hnodup, ig.coveredBy_of_writesWithin merged hnodup ⟨?_, ?_⟩⟩
  · exact fun i hi name hname => hkept name (hwrites.1 i hi name hname)
  · exact fun b hb => ⟨(hwrites.2 b hb).1, hkept b.column (hwrites.2 b hb).2⟩

namespace Config

/-- An accepted pass leaves integrations whose lists repeat no name, which have
    the columns and block fields that are provided for, and whose selected
    inputs and block fields have exactly one column each, both in their own
    table and in the table that the plan has for it. -/
theorem validate_covers (c : Config) (h : c.validate.2 = .ok ()) (ig : Integration)
    (hig : ig ∈ c.validate.1.integrations) :
    ig.table.columnNames.Nodup ∧ (ig.event.inputs.map (·.name)).Nodup ∧
      (ig.block.map (·.name)).Nodup ∧ ig.CoveredBy ig.table ∧
      (∀ name, ig.Requires name →
        name ∈ ig.table.columnNames ∧ name ∈ ig.block.map (·.name)) ∧
      ∃ merged, c.validate.1.mergedTables.find? ig.table.name = some merged ∧
        merged.columnNames.Nodup ∧ ig.CoveredBy merged := by
  have hchecked : ∀ ig ∈ c.validate.1.integrations, ig.checkReferences = .ok () := by
    intro ig hig
    rcases mem_validate_fst c h ig hig with ⟨declared, _, rfl, _, hrefs⟩
    exact (Integration.derive_checkReferences_ok_iff declared).mpr hrefs
  rcases (Integration.checkReferences_ok_iff ig).mp (hchecked ig hig) with
    ⟨hcolumns, hinputs, hblock, hwrites⟩
  refine ⟨hcolumns, hinputs, hblock, ig.coveredBy_of_writesWithin _ hcolumns hwrites, ?_, ?_⟩
  · -- Derivation does not change what is required, and has provided for it.
    rcases mem_validate_fst c h ig hig with ⟨declared, _, rfl, _, _⟩
    intro name hreq
    have hsame : declared.Requires name := by
      simpa only [Integration.Requires, Integration.derive_event] using hreq
    exact ⟨(Integration.mem_columnNames_derive declared name).mpr (Or.inr hsame),
      (Integration.mem_blockNames_derive declared name).mpr (Or.inr hsame)⟩
  · refine coveredBy_merged _ ig (List.mem_map_of_mem hig) (fun t ht => ?_) hwrites
    rcases List.mem_map.mp ht with ⟨other, hother, rfl⟩
    exact ((Integration.checkReferences_ok_iff other).mp (hchecked other hother)).1

/-- The first of two integrations that share a table. Its column is one that the
    merged table does not have from its last declaration. -/
theorem validate_covers_sharing :
    sharing.validate.2 = .ok () ∧
      (Integration.pricing "bids" "bid").derive ∈ sharing.validate.1.integrations ∧
      ∃ merged, sharing.validate.1.mergedTables.find? "prices" = some merged ∧
        merged.columnNames.Nodup ∧ (Integration.pricing "bids" "bid").derive.CoveredBy merged := by
  have hmem : (Integration.pricing "bids" "bid").derive ∈ sharing.validate.1.integrations := by
    rw [validate_fst sharing rfl]
    exact List.mem_cons_self
  exact ⟨rfl, hmem, (validate_covers sharing rfl _ hmem).2.2.2.2.2⟩

end Config

end EventTables
