import EventTables.Table.Union

/-!
# Laws of Unions

Which columns a union has, and which of its parts each of them is from.

A union is built one column at a time, and whether a column is taken depends on
those taken before it. None of the laws below mentions that order. They follow
from what one `absorb` does, by induction on the columns that are absorbed: the
first table stays as it is, as a front part of the result, a name is there
exactly if one of the two tables has it, and a name that is not repeated in the
first table is not repeated in the union, whatever the second one repeats.

## Theorems

* `hasColumn_iff`: A column is had exactly if its name is among the names.
* `union_name`, `union_unique`: The first table gives name and unique groups.
* `mem_columnNames_union`: The names of a union are those of both tables.
* `mem_columns_union`: A column of a union is a column of one of the tables.
* `mem_columns_union_left`: The columns of the first table stay.
* `nodup_union`: A union repeats no name that the first table does not repeat.
-/

namespace EventTables

namespace Table

theorem hasColumn_iff (t : Table) (name : String) :
    t.hasColumn name = true ↔ name ∈ t.columnNames := by
  simp only [hasColumn, columnNames, List.any_eq_true, beq_iff_eq, List.mem_map]

theorem columnNames_addColumn (t : Table) (c : Column) :
    (t.addColumn c).columnNames = t.columnNames ++ [c.name] := by
  simp only [columnNames, addColumn, List.map_append, List.map_cons, List.map_nil]

/-! ### One column -/

theorem absorb_name (t : Table) (c : Column) : (t.absorb c).name = t.name := by
  unfold absorb
  split <;> rfl

theorem absorb_unique (t : Table) (c : Column) : (t.absorb c).unique = t.unique := by
  unfold absorb
  split <;> rfl

theorem mem_columnNames_absorb (t : Table) (c : Column) (name : String) :
    name ∈ (t.absorb c).columnNames ↔ name ∈ t.columnNames ∨ name = c.name := by
  unfold absorb
  by_cases h : t.hasColumn c.name = true
  · rw [if_pos h]
    refine ⟨Or.inl, fun hmem => hmem.elim id (fun heq => ?_)⟩
    rw [heq]
    exact (hasColumn_iff t c.name).mp h
  · rw [if_neg h, columnNames_addColumn, List.mem_append, List.mem_singleton]

theorem mem_columns_absorb (t : Table) (c d : Column) (hd : d ∈ (t.absorb c).columns) :
    d ∈ t.columns ∨ d = c := by
  unfold absorb at hd
  by_cases h : t.hasColumn c.name = true
  · rw [if_pos h] at hd
    exact Or.inl hd
  · rw [if_neg h] at hd
    simpa only [addColumn, List.mem_append, List.mem_singleton] using hd

theorem mem_columns_absorb_left (t : Table) (c d : Column) (hd : d ∈ t.columns) :
    d ∈ (t.absorb c).columns := by
  unfold absorb
  split
  · exact hd
  · exact List.mem_append_left _ hd

theorem nodup_absorb (t : Table) (c : Column) (ht : t.columnNames.Nodup) :
    (t.absorb c).columnNames.Nodup := by
  unfold absorb
  by_cases h : t.hasColumn c.name = true
  · rw [if_pos h]
    exact ht
  · -- The name is new, so it may stand at the end.
    have hnew : c.name ∉ t.columnNames := fun hmem => h ((hasColumn_iff t c.name).mpr hmem)
    rw [if_neg h, columnNames_addColumn, List.nodup_append]
    refine ⟨ht, List.pairwise_singleton _ _, fun a ha b hb hab => hnew ?_⟩
    rw [← List.mem_singleton.mp hb, ← hab]
    exact ha

/-! ### All columns of a table -/

theorem union_name (a b : Table) : (a.union b).name = a.name := by
  unfold union
  induction b.columns generalizing a with
  | nil => rfl
  | cons c cs ih => rw [List.foldl_cons, ih, absorb_name]

theorem union_unique (a b : Table) : (a.union b).unique = a.unique := by
  unfold union
  induction b.columns generalizing a with
  | nil => rfl
  | cons c cs ih => rw [List.foldl_cons, ih, absorb_unique]

/-- No name of either table is lost, and none is added. -/
theorem mem_columnNames_union (a b : Table) (name : String) :
    name ∈ (a.union b).columnNames ↔ name ∈ a.columnNames ∨ name ∈ b.columnNames := by
  unfold union
  rw [show b.columnNames = b.columns.map (·.name) from rfl]
  induction b.columns generalizing a with
  | nil => simp only [List.foldl_nil, List.map_nil, List.not_mem_nil, or_false]
  | cons c cs ih =>
      rw [List.foldl_cons, ih, mem_columnNames_absorb, List.map_cons, List.mem_cons, or_assoc]

/-- No column is made up: a union's types are types that were declared. -/
theorem mem_columns_union (a b : Table) (d : Column) (hd : d ∈ (a.union b).columns) :
    d ∈ a.columns ∨ d ∈ b.columns := by
  revert hd
  unfold union
  induction b.columns generalizing a with
  | nil => exact Or.inl
  | cons c cs ih =>
      intro hd
      rcases ih (a.absorb c) hd with h | h
      · rcases mem_columns_absorb a c d h with h | h
        · exact Or.inl h
        · exact Or.inr (h ▸ List.mem_cons_self)
      · exact Or.inr (List.mem_cons_of_mem _ h)

theorem mem_columns_union_left (a b : Table) (d : Column) (hd : d ∈ a.columns) :
    d ∈ (a.union b).columns := by
  unfold union
  induction b.columns generalizing a with
  | nil => exact hd
  | cons c cs ih => exact ih (a.absorb c) (mem_columns_absorb_left a c d hd)

/-- A union repeats no name that its first table does not repeat. -/
theorem nodup_union (a b : Table) (ha : a.columnNames.Nodup) :
    (a.union b).columnNames.Nodup := by
  unfold union
  induction b.columns generalizing a with
  | nil => exact ha
  | cons c cs ih => exact ih (a.absorb c) (nodup_absorb a c ha)

end Table

end EventTables
