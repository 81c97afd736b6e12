import EventTables.Proofs.Validation

/-!
# Filled Columns

Which columns of an inferred group something is written to.

The columns of an inferred group are to tell rows apart, and a column that nothing is written
to tells nothing apart. A column is written to by the block fields and the selected inputs
that are bound to it. Derivation adds a column and a block field for every name that the
rows need, but each only where its own name is free. So there are two ways for a column to be
in the group with nothing written to it. Its name may be that of a block field which is
declared for another column, and which derivation leaves as it is. Or the column is declared
by one of the names that only rows from a log need, and the integration selects nothing that
needs it. In both cases a declared binding to the column helps, and there is no third case
(`fills_derive_iff`).

## Main definitions

* `Integration.Fills`: Something of an integration is written to a column.
* `Integration.positions`: An integration with a block field for another column.

## Theorems

* `fills_derive_iff`: What is written to once an integration is derived.
* `Config.inferred_filled_iff`: Which columns of an inferred group are written to.
* `Config.not_inferred_filled`: Not all of them are.
-/

namespace EventTables

namespace Integration

/-- A block field or a selected input of the integration is written to the column. -/
def Fills (ig : Integration) (column : String) : Prop :=
  (∃ b ∈ ig.block, b.column = column) ∨ ∃ i ∈ ig.event.inputs, i.target? = some column

/-- A column is written to once the integration is derived if it was before, or if it is
    needed and no block field has its name. -/
theorem fills_derive_iff (ig : Integration) (column : String) :
    ig.derive.Fills column ↔
      ig.Fills column ∨ (ig.Requires column ∧ ∀ b ∈ ig.block, b.name ≠ column) := by
  have hfields : (∃ b ∈ ig.derive.block, b.column = column) ↔
      (∃ b ∈ ig.block, b.column = column) ∨
        (ig.Requires column ∧ ∀ b ∈ ig.block, b.name ≠ column) := by
    simp only [mem_block_derive]
    constructor
    · rintro ⟨b, hb | ⟨hown, hrequires, hnew⟩, rfl⟩
      · exact Or.inl ⟨b, hb, rfl⟩
      · rw [hown]
        exact Or.inr ⟨hrequires, fun d hd hname => hnew (hname ▸ List.mem_map_of_mem hd)⟩
    · rintro (⟨b, hb, hcolumn⟩ | ⟨hrequires, hfree⟩)
      · exact ⟨b, Or.inl hb, hcolumn⟩
      · -- The block field that is added has the name of its column.
        refine ⟨⟨column, column⟩, Or.inr ⟨rfl, hrequires, fun hmem => ?_⟩, rfl⟩
        rcases List.mem_map.mp hmem with ⟨b, hb, hname⟩
        exact hfree b hb hname
  unfold Fills
  rw [hfields, derive_event, or_right_comm]

/-- An integration whose block field for the place of a transaction is written to a column of
    another name, and which declares a column for the place of a log that it does not read. -/
def positions : Integration :=
  { Integration.withTable "blocks" ⟨"blocks", [⟨"position", "int"⟩, ⟨"log_idx", "int"⟩], []⟩ with
    block := [⟨"tx_idx", "position"⟩] }

end Integration

namespace Config

/-- An integration without unique groups gets one of all columns for bookkeeping that are
    declared or needed. A column of it is written to exactly if something that is declared is
    written to it, or if it is needed and its name is that of no declared block field. -/
theorem inferred_filled_iff (c : Config) (h : c.validate.2 = .ok ()) (ig : Integration)
    (hig : ig ∈ c.integrations) (hnone : ig.table.unique = []) :
    ig.derive ∈ c.validate.1.integrations ∧
    ∃ group, ig.derive.table.unique = [group] ∧
      (∀ name, name ∈ group ↔ name ∈ Table.uniqueCandidates ∧
        (name ∈ ig.table.columnNames ∨ ig.Requires name)) ∧
      ∀ name ∈ group, ig.derive.Fills name ↔
        ig.Fills name ∨ (ig.Requires name ∧ ∀ b ∈ ig.block, b.name ≠ name) := by
  have hleft : ig.derive ∈ c.validate.1.integrations := by
    rw [validate_fst c h]
    exact List.mem_map_of_mem hig
  have hgroup : ig.derive.table.unique = [ig.derive.table.inferredGroup] := by
    rw [Integration.derive_unique, if_pos hnone]
  refine ⟨hleft, ig.derive.table.inferredGroup, hgroup, fun name => ?_, fun name _ => ?_⟩
  · rw [Table.mem_inferredGroup, Integration.mem_columnNames_derive]
  · exact ig.fills_derive_iff name

/-- A configuration that only has the integration with the block field for another column. -/
def positioned : Config :=
  { empty with integrations := [.positions] }

/-- The block's number is written to its own column. The places of the transaction and of the
    log are in the group, and nothing is written to their columns. -/
theorem inferred_filled_iff_positions :
    positioned.validate.2 = .ok () ∧ Integration.positions.table.unique = [] ∧
      ∃ group, Integration.positions.derive.table.unique = [group] ∧
        ("block_num" ∈ group ∧ Integration.positions.derive.Fills "block_num") ∧
        ("tx_idx" ∈ group ∧ ¬ Integration.positions.derive.Fills "tx_idx") ∧
        ("log_idx" ∈ group ∧ ¬ Integration.positions.derive.Fills "log_idx") := by
  have hig : Integration.positions ∈ positioned.integrations := List.mem_cons_self
  rcases inferred_filled_iff positioned rfl .positions hig rfl with
    ⟨_, group, hgroup, hmem, hfills⟩
  have hblock : "block_num" ∈ group := (hmem _).mpr ⟨by decide, Or.inr (Or.inl (by decide))⟩
  have htx : "tx_idx" ∈ group := (hmem _).mpr ⟨by decide, Or.inr (Or.inl (by decide))⟩
  have hlog : "log_idx" ∈ group := (hmem _).mpr ⟨by decide, Or.inl (by decide)⟩
  have hnothing : ∀ name, name ≠ "position" → ¬ Integration.positions.Fills name := by
    rintro name hname (⟨b, hb, hcolumn⟩ | ⟨i, hi, _⟩)
    · rw [List.mem_singleton.mp hb] at hcolumn
      exact hname hcolumn.symm
    · exact absurd hi List.not_mem_nil
  refine ⟨rfl, rfl, group, hgroup, ⟨hblock, ?_⟩, ⟨htx, fun hfilled => ?_⟩,
    ⟨hlog, fun hfilled => ?_⟩⟩
  · exact (hfills _ hblock).mpr (Or.inr ⟨Or.inl (by decide), by decide⟩)
  · rcases (hfills _ htx).mp hfilled with hdeclared | ⟨_, hfree⟩
    · exact hnothing "tx_idx" (by decide) hdeclared
    · exact hfree ⟨"tx_idx", "position"⟩ List.mem_cons_self rfl
  · rcases (hfills _ hlog).mp hfilled with hdeclared | ⟨hrequires, _⟩
    · exact hnothing "log_idx" (by decide) hdeclared
    · -- The integration has no input that it could select.
      rcases hrequires with hcommon | ⟨_, i, hi, _⟩ | ⟨_, i, hi, _⟩
      · exact absurd hcommon (by decide)
      · exact absurd hi List.not_mem_nil
      · exact absurd hi List.not_mem_nil

/-- Not every column of a group that was inferred in an accepted configuration is written to:
    that of the transaction's place is not. -/
theorem not_inferred_filled :
    ¬ ∀ c : Config, c.validate.2 = .ok () → ∀ ig ∈ c.integrations, ig.table.unique = [] →
      ∀ group ∈ ig.derive.table.unique, ∀ name ∈ group, ig.derive.Fills name := by
  intro hall
  have hgroup : Integration.positions.derive.table.unique =
      [["ig_name", "src_name", "block_num", "tx_idx", "log_idx"]] := by decide +kernel
  have hfilled := hall positioned rfl .positions List.mem_cons_self rfl _
    (hgroup ▸ List.mem_cons_self) "tx_idx" (by decide)
  rcases hfilled with ⟨b, hb, hcolumn⟩ | ⟨i, hi, _⟩
  · have hblock : ∀ b ∈ Integration.positions.derive.block, b.column ≠ "tx_idx" := by
      decide +kernel
    exact hblock b hb hcolumn
  · exact absurd hi List.not_mem_nil

end Config

end EventTables
