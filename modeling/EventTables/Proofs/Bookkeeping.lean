import EventTables.Proofs.Revalidation

/-!
# Bookkeeping Columns

What derivation makes of an integration, in closed form.

Which columns the rows of an integration need depends on its inputs alone
(`Integration.bookkeeping`). Columns and block fields are then filled in independently of
each other: a name that is taken as a column may be free as a block field, and the other way
round. What is declared stays in front and as it is, and what is added keeps the order of
the list. The group comes last, and is made of what is there by then, so a column that is
declared counts in it like one that was added. What is there already is not added again, so
nothing is left to be done a second time.

## Main definitions

* `Input.HasTarget`: An input has a column with a name.
* `Integration.bookkeeping`: The columns that the rows of an integration need.

## Theorems

* `requiredColumns_eq_bookkeeping`: Derivation asks for these columns.
* `filter_not_hasColumn`, `filter_not_hasBlockField`: Which of them are lacking.
* `inferredGroup_eq_filter`, `inferUnique_eq`: The group that is added to a table.
* `derivation_closed_form`: The derived integration, and that it stays as it is.
-/

namespace EventTables

/-- The input has a column, and that has a name. -/
def Input.HasTarget (i : Input) : Prop :=
  ∃ name ∈ i.column, name ≠ ""

instance : DecidablePred Input.HasTarget := fun i =>
  inferInstanceAs (Decidable (∃ name ∈ i.column, name ≠ ""))

theorem Input.isSelected_iff (i : Input) : i.isSelected = true ↔ i.HasTarget := by
  unfold Input.isSelected Input.target? Input.HasTarget
  rw [Option.isSome_filter, Option.any_eq_true]
  simp only [decide_eq_true_eq, Option.mem_def]

/-! ### The group of a table -/

namespace Table

theorem inferredGroup_eq_filter (t : Table) :
    t.inferredGroup = ["ig_name", "src_name", "block_num", "tx_idx", "log_idx", "abi_idx"].filter
      fun name => name ∈ t.columnNames := by
  refine List.filter_congr fun name _ => ?_
  rw [Bool.eq_iff_iff, hasColumn_iff, decide_eq_true_eq]

-- Nothing of a table is changed but its groups.
theorem inferUnique_eq (t : Table) :
    t.inferUnique = { t with unique := t.inferUnique.unique } := by
  unfold inferUnique
  split <;> rfl

end Table

namespace Integration

/-! ### Columns and block fields -/

/-- The columns that the rows of the integration need, with their types: four for every
    integration, one more if some input has a column, and one more if some input that has a
    column is read from the log body. -/
def bookkeeping (ig : Integration) : List Column :=
  [⟨"ig_name", "text"⟩, ⟨"src_name", "text"⟩, ⟨"block_num", "numeric"⟩, ⟨"tx_idx", "int"⟩] ++
    (if ∃ i ∈ ig.event.inputs, i.HasTarget then [⟨"log_idx", "int"⟩] else []) ++
    (if ∃ i ∈ ig.event.inputs, i.HasTarget ∧ i.indexed = false then [⟨"abi_idx", "int2"⟩] else [])

theorem requiredColumns_eq_bookkeeping (ig : Integration) :
    ig.requiredColumns = ig.bookkeeping := by
  have hselected : ig.event.selected.isEmpty = true ↔ ¬ ∃ i ∈ ig.event.inputs, i.HasTarget := by
    rw [selected_isEmpty_iff]
    simp only [Input.isSelected_iff]
  have hunindexed : ig.event.selectsUnindexed = true ↔
      ∃ i ∈ ig.event.inputs, i.HasTarget ∧ i.indexed = false := by
    rw [selectsUnindexed_iff]
    simp only [Input.isSelected_iff]
  unfold requiredColumns bookkeeping
  simp only [hselected, hunindexed, ite_not]

theorem filter_not_hasColumn (ig : Integration) (cs : List Column) :
    (cs.filter fun c => !ig.table.hasColumn c.name) =
      cs.filter fun c => c.name ∉ ig.table.columnNames := by
  refine List.filter_congr fun c _ => ?_
  rw [Bool.eq_iff_iff, Bool.not_eq_true', ← Bool.not_eq_true, Table.hasColumn_iff,
    decide_eq_true_eq]

theorem filter_not_hasBlockField (ig : Integration) (cs : List Column) :
    (cs.filter fun c => !ig.hasBlockField c.name) =
      cs.filter fun c => c.name ∉ ig.block.map (·.name) := by
  refine List.filter_congr fun c _ => ?_
  rw [Bool.eq_iff_iff, Bool.not_eq_true', ← Bool.not_eq_true, hasBlockField_iff,
    decide_eq_true_eq]

/-! ### The derived integration -/

/-- Derivation in closed form. The needed columns and block fields are appended where their
    names are not taken, each kind for itself. Then one group of the columns that are there is
    added if none is declared. Nothing else is changed, and neither step changes anything
    after that. -/
theorem derivation_closed_form (ig : Integration) :
    ig.addRequired = { ig with
      block := ig.block ++
        (ig.bookkeeping.filter fun c => c.name ∉ ig.block.map (·.name)).map
          fun c => ⟨c.name, c.name⟩
      table := { ig.table with
        columns := ig.table.columns ++
          ig.bookkeeping.filter fun c => c.name ∉ ig.table.columnNames } } ∧
    ig.addRequired.inferUnique = { ig.addRequired with
      table := { ig.addRequired.table with
        unique := if ig.table.unique = [] then
            [["ig_name", "src_name", "block_num", "tx_idx", "log_idx", "abi_idx"].filter
              fun name => name ∈ ig.addRequired.table.columnNames]
          else ig.table.unique } } ∧
    ig.derive.addRequired = ig.derive ∧
    ig.derive.inferUnique = ig.derive ∧
    ig.derive.derive = ig.derive := by
  have hgroups : ig.derive.table.inferUnique = ig.derive.table :=
    Table.inferUnique_of_declared _ ig.derive_unique_ne_nil
  refine ⟨?_, ?_, ig.addRequired_derive, ?_, ig.derive_derive⟩
  · rw [addRequired_eq, requiredColumns_eq_bookkeeping, provided, filter_not_hasColumn,
      filter_not_hasBlockField]
  · -- The group is inferred from the columns that are there before it is added.
    have hsame : ig.derive.table.inferredGroup = ig.addRequired.table.inferredGroup :=
      Table.inferUnique_inferredGroup _
    have hunique := ig.derive_unique
    rw [hsame, Table.inferredGroup_eq_filter] at hunique
    rw [← hunique]
    exact congrArg (fun t => { ig.addRequired with table := t })
      (Table.inferUnique_eq ig.addRequired.table)
  · rw [inferUnique, hgroups]

end Integration

end EventTables
