import EventTables.Derivation
import EventTables.Proofs.Table.Union

/-!
# Laws of Derived Columns

What an integration looks like after its derivation, told from what it was
before.

Required fields are added one after the other, and whether one is added depends
on what is there by then. Their names are all different, so none of them ever
stands in the way of another: each is added exactly if the integration as it was
declared does not have the name. `foldl_require` is that argument, and it turns
the loop into two filters over the list of required columns. All that later
modules ask of a derived integration is read off these filters.

## Main definitions

* `Integration.Requires`: The names that derivation provides for.
* `Integration.provided`: An integration with the columns of a list that it lacks.
* `lacking`: The names of a list that another list does not have.

## Theorems

* `requires_iff`: They are the names of the required columns.
* `foldl_require`: The closed form of adding required fields.
* `mem_columnNames_derive`: The column names of a derived integration.
* `mem_block_derive`: The block fields of a derived integration.
* `nodup_columnNames_derive`, `nodup_blockNames_derive`: Derivation repeats no
  name.
* `derive_unique`, `forall_mem_derive_unique_iff`: The unique groups of a derived
  integration, and their members.
-/

namespace EventTables

namespace Integration

/-- The names for which derivation sees to it that there is a column: four for
    every integration, one for every integration that selects an input, and one
    for every integration that reads an input from the log body. -/
def Requires (ig : Integration) (name : String) : Prop :=
  name ∈ ["ig_name", "src_name", "block_num", "tx_idx"] ∨
    (name = "log_idx" ∧ ∃ i ∈ ig.event.inputs, i.isSelected = true) ∨
    (name = "abi_idx" ∧ ∃ i ∈ ig.event.inputs, i.isSelected = true ∧ i.indexed = false)

theorem selected_isEmpty_iff (e : Event) :
    e.selected.isEmpty = true ↔ ¬ ∃ i ∈ e.inputs, i.isSelected = true := by
  simp only [Event.selected, List.isEmpty_iff, List.filter_eq_nil_iff, not_exists, not_and]

theorem selectsUnindexed_iff (e : Event) :
    e.selectsUnindexed = true ↔ ∃ i ∈ e.inputs, i.isSelected = true ∧ i.indexed = false := by
  simp only [Event.selectsUnindexed, Event.selected, List.any_eq_true, List.mem_filter,
    Bool.not_eq_true', and_assoc]

/-- The names that are provided for are those of the required columns. -/
theorem requires_iff (ig : Integration) (name : String) :
    ig.Requires name ↔ name ∈ ig.requiredColumns.map (·.name) := by
  rw [Requires, ← selectsUnindexed_iff]
  have hsel := selected_isEmpty_iff ig.event
  by_cases h : ∃ i ∈ ig.event.inputs, i.isSelected = true
  · have hfalse : ig.event.selected.isEmpty = false := by
      rw [← Bool.not_eq_true, hsel]
      exact not_not_intro h
    by_cases hu : ig.event.selectsUnindexed = true
    · simp only [requiredColumns, hfalse, hu, h, and_true, if_true, Bool.false_eq_true, if_false,
        List.map_append, List.map_cons, List.map_nil, List.mem_append, List.mem_cons,
        List.not_mem_nil, or_false, or_assoc]
    · simp only [requiredColumns, hfalse, hu, h, and_true, and_false, or_false, Bool.false_eq_true,
        if_false, List.map_append, List.map_cons, List.map_nil, List.mem_append, List.mem_cons,
        List.not_mem_nil, or_assoc]
  · -- With no input selected, none can be read from the log body.
    have hu : ig.event.selectsUnindexed ≠ true := by
      intro hu
      rcases (selectsUnindexed_iff ig.event).mp hu with ⟨i, hi, hs, _⟩
      exact h ⟨i, hi, hs⟩
    simp only [requiredColumns, hsel.mpr h, hu, h, and_false, or_false, if_true, Bool.false_eq_true,
      if_false, List.append_nil, List.map_cons, List.map_nil]

theorem nodup_requiredColumns (ig : Integration) :
    (ig.requiredColumns.map (·.name)).Nodup := by
  unfold requiredColumns
  cases ig.event.selected.isEmpty <;> cases ig.event.selectsUnindexed <;> decide

/-! ### One required column -/

theorem hasColumn_require (ig : Integration) (c : Column) (name : String) :
    (ig.require c).table.hasColumn name = (ig.table.hasColumn name || c.name == name) := by
  unfold require
  by_cases h : ig.table.hasColumn c.name = true
  · rw [if_pos h]
    by_cases hname : c.name = name
    · rw [← hname, h, Bool.true_or]
    · rw [beq_eq_false_iff_ne.mpr hname, Bool.or_false]
  · rw [if_neg h]
    simp only [Table.hasColumn, Table.addColumn, List.any_append, List.any_cons, List.any_nil,
      Bool.or_false]

theorem hasBlockField_require (ig : Integration) (c : Column) (name : String) :
    (ig.require c).hasBlockField name = (ig.hasBlockField name || c.name == name) := by
  have hblock : (ig.require c).block
      = if ig.hasBlockField c.name = true then ig.block else ig.block ++ [⟨c.name, c.name⟩] := rfl
  rw [hasBlockField, hblock]
  by_cases h : ig.hasBlockField c.name = true
  · rw [if_pos h, ← hasBlockField]
    by_cases hname : c.name = name
    · rw [← hname, h, Bool.true_or]
    · rw [beq_eq_false_iff_ne.mpr hname, Bool.or_false]
  · rw [if_neg h, List.any_append, List.any_cons, List.any_nil, Bool.or_false, ← hasBlockField]

/-! ### All required columns -/

/-- The integration with the columns of a list that it lacks, and with the
    block fields of a list that it lacks. -/
def provided (ig : Integration) (cs : List Column) : Integration :=
  { ig with
    block := ig.block ++
      (cs.filter fun c => !ig.hasBlockField c.name).map fun c => ⟨c.name, c.name⟩
    table := { ig.table with
      columns := ig.table.columns ++ cs.filter fun c => !ig.table.hasColumn c.name } }

-- Adding one column and then others, of other names, is adding them all at
-- once.
theorem provided_require (ig : Integration) (c : Column) (cs : List Column)
    (hc : c.name ∉ cs.map (·.name)) :
    (ig.require c).provided cs = ig.provided (c :: cs) := by
  have hother : ∀ d ∈ cs, (c.name == d.name) = false := by
    intro d hd
    exact beq_eq_false_iff_ne.mpr fun heq => hc (heq ▸ List.mem_map_of_mem hd)
  -- What was just added has another name than all that is still to be added.
  have hcolumns : (cs.filter fun d => !(ig.require c).table.hasColumn d.name)
      = cs.filter fun d => !ig.table.hasColumn d.name := by
    refine List.filter_congr fun d hd => ?_
    rw [hasColumn_require, hother d hd, Bool.or_false]
  have hblock : (cs.filter fun d => !(ig.require c).hasBlockField d.name)
      = cs.filter fun d => !ig.hasBlockField d.name := by
    refine List.filter_congr fun d hd => ?_
    rw [hasBlockField_require, hother d hd, Bool.or_false]
  unfold provided
  rw [hcolumns, hblock]
  unfold require
  -- The column and the block field may be there already, each for itself.
  by_cases ht : ig.table.hasColumn c.name = true <;> by_cases hb : ig.hasBlockField c.name = true
  · simp only [ht, hb, if_true, List.filter_cons, Bool.not_true, Bool.false_eq_true, if_false]
  · simp only [ht, hb, if_true, List.filter_cons, Bool.not_true, Bool.false_eq_true, if_false,
      Bool.not_false, List.map_cons, List.append_assoc, List.cons_append, List.nil_append]
  · simp only [ht, hb, if_true, List.filter_cons, Bool.not_true, Bool.false_eq_true, if_false,
      Bool.not_false, Table.addColumn, List.append_assoc, List.cons_append, List.nil_append]
  · simp only [ht, hb, if_true, List.filter_cons, Bool.false_eq_true, if_false,
      Bool.not_false, Table.addColumn, List.map_cons, List.append_assoc, List.cons_append,
      List.nil_append]

-- Columns of different names are added exactly where the declared integration
-- lacks them.
theorem foldl_require (cs : List Column) (ig : Integration) (hcs : (cs.map (·.name)).Nodup) :
    cs.foldl require ig = ig.provided cs := by
  induction cs generalizing ig with
  | nil => simp only [List.foldl_nil, provided, List.filter_nil, List.map_nil, List.append_nil]
  | cons c cs ih =>
      rcases List.nodup_cons.mp hcs with ⟨hc, hrest⟩
      rw [List.foldl_cons, ih (ig.require c) hrest, provided_require ig c cs hc]

theorem addRequired_eq (ig : Integration) : ig.addRequired = ig.provided ig.requiredColumns :=
  foldl_require _ ig (nodup_requiredColumns ig)

end Integration

/-! ### The inferred unique group -/

namespace Table

theorem inferUnique_name (t : Table) : t.inferUnique.name = t.name := by
  unfold inferUnique
  split <;> rfl

theorem inferUnique_columns (t : Table) : t.inferUnique.columns = t.columns := by
  unfold inferUnique
  split <;> rfl

theorem inferUnique_inferredGroup (t : Table) :
    t.inferUnique.inferredGroup = t.inferredGroup := by
  refine List.filter_congr fun name _ => ?_
  rw [hasColumn, hasColumn, inferUnique_columns]

theorem mem_inferredGroup (t : Table) (name : String) :
    name ∈ t.inferredGroup ↔ name ∈ uniqueCandidates ∧ name ∈ t.columnNames := by
  rw [inferredGroup, List.mem_filter, hasColumn_iff]

-- A table that declares unique groups keeps them, and no other group is
-- added.
theorem inferUnique_of_declared (t : Table) (ht : t.unique ≠ []) : t.inferUnique = t := by
  have hmissing : t.missingGroup? = none := by
    rw [missingGroup?, List.isEmpty_eq_false_iff.mpr ht, Bool.false_and]
    rfl
  rw [inferUnique, hmissing]

-- A table without unique groups gets the inferred one, if there is a column to
-- infer it from.
theorem inferUnique_unique (t : Table) (ht : t.unique = []) (hgroup : t.inferredGroup ≠ []) :
    t.inferUnique.unique = [t.inferredGroup] := by
  have hmissing : t.missingGroup? = some t.inferredGroup := by
    rw [missingGroup?, ht, List.isEmpty_eq_false_iff.mpr hgroup]
    rfl
  rw [inferUnique, hmissing]
  simp only [addUnique, ht, List.nil_append]

end Table

/-! ### Names that are lacking -/

/-- The names of a list that another list does not have. -/
def lacking (names added : List String) : List String :=
  added.filter fun name => !names.contains name

theorem mem_append_lacking (names added : List String) (name : String) :
    name ∈ names ++ lacking names added ↔ name ∈ names ∨ name ∈ added := by
  rw [List.mem_append, lacking, List.mem_filter, Bool.not_eq_true', ← Bool.not_eq_true,
    List.contains_iff_mem]
  by_cases h : name ∈ names
  · exact ⟨fun _ => Or.inl h, fun _ => Or.inl h⟩
  · exact or_congr_right ⟨fun hadded => hadded.1, fun hadded => ⟨hadded, h⟩⟩

-- What is appended is new, so it neither repeats a name nor hides a repetition.
theorem nodup_append_lacking (names added : List String) (hadded : added.Nodup) :
    (names ++ lacking names added).Nodup ↔ names.Nodup := by
  rw [List.nodup_append]
  refine ⟨fun h => h.1, fun h => ⟨h, List.Nodup.sublist List.filter_sublist hadded, ?_⟩⟩
  intro a ha b hb hab
  have hnew := (List.mem_filter.mp hb).2
  rw [Bool.not_eq_true', ← Bool.not_eq_true, List.contains_iff_mem] at hnew
  exact hnew (hab ▸ ha)

/-! ### Derived integrations -/

namespace Integration

theorem derive_name (ig : Integration) : ig.derive.name = ig.name := by
  rw [derive, addRequired_eq]
  rfl

theorem derive_event (ig : Integration) : ig.derive.event = ig.event := by
  rw [derive, addRequired_eq]
  rfl

theorem derive_table_name (ig : Integration) : ig.derive.table.name = ig.table.name := by
  rw [derive, addRequired_eq]
  exact Table.inferUnique_name _

theorem derive_columns (ig : Integration) :
    ig.derive.table.columns = ig.table.columns ++
      ig.requiredColumns.filter fun c => !ig.table.hasColumn c.name := by
  rw [derive, addRequired_eq]
  exact Table.inferUnique_columns _

theorem derive_block (ig : Integration) :
    ig.derive.block = ig.block ++
      (ig.requiredColumns.filter fun c => !ig.hasBlockField c.name).map fun c =>
        ⟨c.name, c.name⟩ := by
  rw [derive, addRequired_eq]
  rfl

theorem hasBlockField_iff (ig : Integration) (name : String) :
    ig.hasBlockField name = true ↔ name ∈ ig.block.map (·.name) := by
  simp only [hasBlockField, List.any_eq_true, beq_iff_eq, List.mem_map]

-- Whether a column or a block field is there is a question about names, so the
-- names that derivation adds are the required ones that are lacking.
theorem columnNames_derive (ig : Integration) :
    ig.derive.table.columnNames = ig.table.columnNames ++
      lacking ig.table.columnNames (ig.requiredColumns.map (·.name)) := by
  have hlacks : ∀ name, (!ig.table.columnNames.contains name) = !ig.table.hasColumn name := by
    intro name
    rw [Bool.eq_iff_iff.mpr (List.contains_iff_mem.trans (Table.hasColumn_iff _ _).symm)]
  rw [Table.columnNames, derive_columns, List.map_append, lacking, List.filter_map]
  simp only [hlacks, Function.comp_def]
  rfl

theorem blockNames_derive (ig : Integration) :
    ig.derive.block.map (·.name) = ig.block.map (·.name) ++
      lacking (ig.block.map (·.name)) (ig.requiredColumns.map (·.name)) := by
  have hlacks : ∀ name, (!(ig.block.map (·.name)).contains name) = !ig.hasBlockField name := by
    intro name
    rw [Bool.eq_iff_iff.mpr (List.contains_iff_mem.trans (hasBlockField_iff _ _).symm)]
  rw [derive_block, List.map_append, List.map_map, lacking, List.filter_map]
  simp only [hlacks, Function.comp_def]

/-- The column names of a derived integration are those declared and those
    provided for. -/
theorem mem_columnNames_derive (ig : Integration) (name : String) :
    name ∈ ig.derive.table.columnNames ↔ name ∈ ig.table.columnNames ∨ ig.Requires name := by
  rw [columnNames_derive, mem_append_lacking, requires_iff]

/-- The same for the names of block fields. -/
theorem mem_blockNames_derive (ig : Integration) (name : String) :
    name ∈ ig.derive.block.map (·.name) ↔ name ∈ ig.block.map (·.name) ∨ ig.Requires name := by
  rw [blockNames_derive, mem_append_lacking, requires_iff]

/-- A block field of a derived integration was declared, or is provided for and
    written to the column of its own name. -/
theorem mem_block_derive (ig : Integration) (b : BlockField) :
    b ∈ ig.derive.block ↔ b ∈ ig.block ∨
      (b.column = b.name ∧ ig.Requires b.name ∧ b.name ∉ ig.block.map (·.name)) := by
  rw [requires_iff, derive_block, List.mem_append]
  refine or_congr_right ⟨fun h => ?_, fun h => ?_⟩
  · rcases List.mem_map.mp h with ⟨c, hc, rfl⟩
    rcases List.mem_filter.mp hc with ⟨hmem, hnew⟩
    refine ⟨rfl, List.mem_map_of_mem hmem, fun hdecl => ?_⟩
    rw [(hasBlockField_iff ig c.name).mpr hdecl] at hnew
    exact absurd hnew (by decide)
  · rcases h with ⟨hcolumn, hreq, hnew⟩
    rcases List.mem_map.mp hreq with ⟨c, hc, hname⟩
    refine List.mem_map.mpr ⟨c, List.mem_filter.mpr ⟨hc, ?_⟩, ?_⟩
    · rw [Bool.not_eq_true', ← Bool.not_eq_true, hasBlockField_iff, hname]
      exact hnew
    · rcases b with ⟨name, column⟩
      rw [BlockField.mk.injEq]
      exact ⟨hname, hname.trans hcolumn.symm⟩

/-- Derivation repeats no column name, and hides no repetition. -/
theorem nodup_columnNames_derive (ig : Integration) :
    ig.derive.table.columnNames.Nodup ↔ ig.table.columnNames.Nodup := by
  rw [columnNames_derive, nodup_append_lacking _ _ (nodup_requiredColumns ig)]

/-- The same for the names of block fields. -/
theorem nodup_blockNames_derive (ig : Integration) :
    (ig.derive.block.map (·.name)).Nodup ↔ (ig.block.map (·.name)).Nodup := by
  rw [blockNames_derive, nodup_append_lacking _ _ (nodup_requiredColumns ig)]

-- One candidate is provided for every integration.
theorem ig_name_mem_inferredGroup_derive (ig : Integration) :
    "ig_name" ∈ ig.derive.table.inferredGroup := by
  rw [Table.mem_inferredGroup, mem_columnNames_derive]
  exact ⟨by decide, Or.inr (Or.inl (by decide))⟩

/-- The unique groups of a derived integration are those declared, or else one
    group made of the provided columns. It is never empty, since four columns
    are provided for every integration. -/
theorem derive_unique (ig : Integration) :
    ig.derive.table.unique =
      if ig.table.unique = [] then [ig.derive.table.inferredGroup] else ig.table.unique := by
  have hfirst := ig_name_mem_inferredGroup_derive ig
  have hsame : ig.derive.table.inferredGroup = ig.addRequired.table.inferredGroup :=
    Table.inferUnique_inferredGroup _
  have hunique : ig.addRequired.table.unique = ig.table.unique := by
    rw [addRequired_eq]
    rfl
  by_cases h : ig.table.unique = []
  · rw [if_pos h, hsame]
    exact Table.inferUnique_unique _ (hunique.trans h)
      (List.ne_nil_of_mem (hsame ▸ hfirst))
  · rw [if_neg h, ← hunique, derive, inferUnique,
      Table.inferUnique_of_declared _ (hunique ▸ h)]

/-- What holds of inferred columns holds of all members of a derived table's groups if it
    holds of those that are declared. -/
theorem forall_mem_derive_unique_iff (ig : Integration) (P : String → Prop)
    (hinferred : ∀ name ∈ ig.derive.table.inferredGroup, P name) :
    (∀ group ∈ ig.derive.table.unique, ∀ name ∈ group, P name) ↔
      ∀ group ∈ ig.table.unique, ∀ name ∈ group, P name := by
  rw [derive_unique]
  by_cases h : ig.table.unique = []
  · rw [if_pos h, h, List.forall_mem_singleton]
    exact iff_of_true hinferred fun group hgroup => absurd hgroup List.not_mem_nil
  · rw [if_neg h]

end Integration

end EventTables
