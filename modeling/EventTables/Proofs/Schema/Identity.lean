import EventTables.Proofs.Schema.Latest
import EventTables.Proofs.Schema.Statement

/-!
# Identity of Rows

Whether the index of a merged table keeps the rows of every integration apart.

An integration that declares no unique group gets one of the columns that say where
a row comes from. How many there are depends on what it selects: rows that are read
from a log need a log index, and rows that are read from a log body one column more.
A merged table has the group of a single integration, the last one. If that one
selects less, its group is too small for the others, and the index refuses rows that
they take for different ones. It is large enough for an integration exactly if the
last one has those two columns wherever the integration has them
(`inferredGroup_subset_iff`). The other four columns are everywhere.

## Main definitions

* `Row`, `Clash`: Rows, and which of them a unique index refuses.
* `Config.ledger`: Two integrations of one table.

## Theorems

* `forall_clash_iff`: A smaller group keeps fewer rows apart.
* `inferredGroup_subset_iff`: When one inferred group has another one's columns.
* `merged_group_contains_iff`: When a merged table's group has the columns of an
  integration's own one.
* `not_merge_keeps_identity`: It need not have them.
-/

namespace EventTables

/-! ### Rows -/

/-- The values of a row by their columns. There is none where it is null. -/
abbrev Row := String → Option String

/-- The rows have the same values in all columns of the group, so a unique index over
    the group refuses one of them. A null is not the same as another null. -/
def Clash (group : List String) (r s : Row) : Prop :=
  ∀ name ∈ group, ∃ value, r name = some value ∧ s name = some value

/-- Two rows that one group keeps apart are kept apart by another one exactly if that
    has all columns of the first. -/
theorem forall_clash_iff (group own : List String) :
    (∀ r s, Clash group r s → Clash own r s) ↔ ∀ name ∈ own, name ∈ group := by
  constructor
  · intro h name hname
    by_contra hnot
    -- Rows that differ in a column that is not in the group, and in no other one.
    have hclash : Clash group (fun _ => some "")
        fun n => if n = name then some "1" else some "" := by
      intro n hn
      have hne : n ≠ name := fun heq => hnot (heq ▸ hn)
      exact ⟨"", rfl, if_neg hne⟩
    rcases h _ _ hclash name hname with ⟨value, hleft, hright⟩
    have hempty : "" = value := Option.some.inj hleft
    have hone : (if name = name then some "1" else some "") = some value := hright
    rw [if_pos rfl, ← hempty] at hone
    exact absurd hone (by decide)
  · exact fun h r s hclash name hname => hclash name (h name hname)

/-! ### Inferred groups -/

namespace Table

/-- The columns that the rows of every integration need. -/
def commonColumns : List String :=
  ["ig_name", "src_name", "block_num", "tx_idx"]

/-- The columns that only rows from a log need. -/
def logColumns : List String :=
  ["log_idx", "abi_idx"]

/-- An inferred group that has the common columns has all those of another inferred
    group if its table has the other table's log columns. -/
theorem inferredGroup_subset_iff (t u : Table)
    (hcommon : ∀ name ∈ commonColumns, name ∈ u.columnNames) :
    (∀ name ∈ t.inferredGroup, name ∈ u.inferredGroup) ↔
      ∀ name ∈ logColumns, name ∈ t.columnNames → name ∈ u.columnNames := by
  have hcandidates : uniqueCandidates = commonColumns ++ logColumns := rfl
  simp only [mem_inferredGroup, hcandidates, List.mem_append]
  constructor
  · intro h name hlog hname
    exact (h name ⟨Or.inr hlog, hname⟩).2
  · rintro h name ⟨hcandidate, hname⟩
    refine ⟨hcandidate, ?_⟩
    rcases hcandidate with hmem | hmem
    · exact hcommon name hmem
    · exact h name hmem hname

end Table

/-! ### Merged tables -/

namespace Config

-- What an accepting pass leaves of an integration without unique groups.
theorem inferred_of_validate (c : Config) (h : c.validate.2 = .ok ())
    (hnone : ∀ ig ∈ c.integrations, ig.table.unique = []) (ig : Integration)
    (hig : ig ∈ c.validate.1.integrations) :
    ig.table.unique = [ig.table.inferredGroup] ∧
      ∀ name ∈ Table.commonColumns, name ∈ ig.table.columnNames := by
  rcases mem_validate_fst c h ig hig with ⟨declared, hdecl, rfl, _⟩
  refine ⟨?_, fun name hname => ?_⟩
  · rw [Integration.derive_unique, if_pos (hnone declared hdecl)]
  · exact (Integration.mem_columnNames_derive declared name).mpr (Or.inr (Or.inl hname))

/-- Where no unique group is declared, the table that is merged for an integration has
    the group that was inferred for the last one of the table, and the plan makes an
    index over it. It always has the common columns. It has all columns of the
    integration's own group exactly if the last one has the log columns that the
    integration has, and only then does it keep apart all rows that the
    integration's own group keeps apart. -/
theorem merged_group_contains_iff (c : Config) (h : c.validate.2 = .ok ())
    (hnone : ∀ ig ∈ c.integrations, ig.table.unique = []) (ig : Integration)
    (hig : ig ∈ c.validate.1.integrations) :
    ∃ last merged, c.validate.1.lastDeclaring? ig.table.name = some last ∧
      c.validate.1.mergedTables.find? ig.table.name = some merged ∧
      ig.table.unique = [ig.table.inferredGroup] ∧
      merged.unique = [last.table.inferredGroup] ∧
      .createIndex ("u_" ++ ig.table.name) ig.table.name last.table.inferredGroup ∈
        c.validate.1.plan ∧
      (∀ name ∈ Table.commonColumns, name ∈ last.table.inferredGroup) ∧
      ((∀ name ∈ ig.table.inferredGroup, name ∈ last.table.inferredGroup) ↔
        ∀ name ∈ Table.logColumns, name ∈ ig.table.columnNames →
          name ∈ last.table.columnNames) ∧
      ((∀ r s, Clash last.table.inferredGroup r s → Clash ig.table.inferredGroup r s) ↔
        ∀ name ∈ Table.logColumns, name ∈ ig.table.columnNames →
          name ∈ last.table.columnNames) := by
  rcases c.validate.1.exists_lastDeclaring? ig hig with ⟨last, hlast⟩
  rcases c.validate.1.exists_merged_of_last _ last hlast with ⟨merged, hmerged, hunique⟩
  rcases c.inferred_of_validate h hnone ig hig with ⟨hown, _⟩
  have hmem := (c.validate.1.mem_of_lastDeclaring? _ last hlast).1
  rcases c.inferred_of_validate h hnone last hmem with ⟨hgroup, hcommon⟩
  rw [hgroup] at hunique
  have hfirst : ∀ name ∈ Table.commonColumns, name ∈ last.table.inferredGroup := fun name hname =>
    (Table.mem_inferredGroup _ name).mpr ⟨List.mem_append_left Table.logColumns hname,
      hcommon name hname⟩
  refine ⟨last, merged, hlast, hmerged, hown, hunique, ?_, hfirst,
    Table.inferredGroup_subset_iff _ _ hcommon, ?_⟩
  · -- The one group of the merged table stands in its first place.
    rcases (find?_mergeTables_iff _ _ merged).mp hmerged with ⟨hin, hname⟩
    rw [plan_eq_flatMap]
    refine List.mem_flatMap.mpr ⟨merged, hin, ?_⟩
    refine (Table.createIndex_mem_statements_iff merged _ _ _).mpr ⟨hname.symm, ?_, 0, ?_, ?_⟩
    · exact List.ne_nil_of_mem (hfirst "ig_name" (by decide))
    · rw [hunique]
      rfl
    · rw [Table.indexName, if_pos rfl, hname]
  · rw [forall_clash_iff, Table.inferredGroup_subset_iff _ _ hcommon]

/-- Two integrations of one table. -/
def ledger (first second : Integration) : Config :=
  { empty with integrations := [first, second] }

end Config

/-- An integration that writes an amount from a log body. -/
def Integration.transfers : Integration :=
  { Integration.withTable "transfers" ⟨"entries", [⟨"amount", "numeric"⟩], []⟩ with
    event := (Event.named "Transfer").addInput
      { Input.plain "value" "uint256" with column := some "amount" } }

/-- An integration of the same table that selects nothing. -/
def Integration.heartbeat : Integration :=
  Integration.withTable "heartbeat" ⟨"entries", [], []⟩

namespace Config

/-- Where the integration that selects nothing is the first one, its rows are kept
    apart. -/
theorem merged_group_contains_heartbeat :
    (ledger .heartbeat .transfers).validate.2 = .ok () ∧
      (∀ ig ∈ (ledger .heartbeat .transfers).integrations, ig.table.unique = []) ∧
      Integration.heartbeat.derive ∈ (ledger .heartbeat .transfers).validate.1.integrations ∧
      ∃ (last : Integration) (merged : Table),
        (ledger .heartbeat .transfers).validate.1.mergedTables.find? "entries" = some merged ∧
        merged.unique = [last.table.inferredGroup] ∧
        ∀ r s, Clash last.table.inferredGroup r s →
          Clash Integration.heartbeat.derive.table.inferredGroup r s := by
  have hnone : ∀ ig ∈ (ledger .heartbeat .transfers).integrations, ig.table.unique = [] := by decide
  have hmem : Integration.heartbeat.derive ∈
      (ledger .heartbeat .transfers).validate.1.integrations := by
    rw [validate_fst _ rfl]
    exact List.mem_cons_self
  rcases merged_group_contains_iff (ledger .heartbeat .transfers) rfl hnone _ hmem with
    ⟨last, merged, _, hmerged, _, hunique, _, _, _, hclash⟩
  -- It has neither of the columns that only rows from a log need.
  have hnot : ∀ name ∈ Table.logColumns, name ∉ Integration.heartbeat.derive.table.columnNames := by
    decide +kernel
  exact ⟨rfl, hnone, hmem, last, merged, hmerged, hunique,
    hclash.mpr fun name hlog hname => absurd hname (hnot name hlog)⟩

/-- Where it is the last one, the index of the table leaves out a column of the other
    one's own group. -/
theorem not_merge_keeps_identity :
    ¬ ∀ c : Config, (∀ ig ∈ c.integrations, ig.table.unique = []) → c.validate.2 = .ok () →
      ∀ ig ∈ c.validate.1.integrations, ∀ merged,
        c.validate.1.mergedTables.find? ig.table.name = some merged →
        ∀ group ∈ merged.unique, ∀ name ∈ ig.table.inferredGroup, name ∈ group := by
  intro hall
  have hmem : Integration.transfers.derive ∈
      (ledger .transfers .heartbeat).validate.1.integrations := by
    rw [validate_fst _ rfl]
    exact List.mem_cons_self
  have hgroup := hall (ledger .transfers .heartbeat) (by decide) rfl _ hmem _ rfl
    ["ig_name", "src_name", "block_num", "tx_idx"] (by decide +kernel) "log_idx" (by decide +kernel)
  exact absurd hgroup (by decide)

end Config

end EventTables
