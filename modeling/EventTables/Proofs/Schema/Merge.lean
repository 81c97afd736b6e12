import EventTables.Schema.Plan
import EventTables.Proofs.Keyed
import EventTables.Proofs.Table.Union
import Mathlib.Data.List.Induction

/-!
# Laws of Merged Tables

What the table under a name has from the declarations of that name.

Declarations of different tables reach the merge in any order, and each is laid
over what its own name has led to so far. Nothing else is read, so the table
under a name depends on the declarations of that name alone. `find?_mergeTables`
is that argument: it takes the keyed list out of the loop and leaves one pass,
`layered`, over the declarations of one table. What holds of every such pass is
collected in `MergeOf`, and the laws of the whole merge are read off it.

## Main definitions

* `Table.over`: A declaration laid over what earlier ones led to.
* `layered`: Declarations of one table laid over each other.
* `MergeOf`: What a merged table has from its declarations.
* `mergedList`: The merged tables without their keys.

## Theorems

* `find?_mergeTables`: The table under a name is made of that name's
  declarations.
* `ascending_mergeTables`: The tables are in the order of their names.
* `mergeOf_layered`: A pass leads to a merge of its declarations.
* `mergeOf_mem`: Every table of the merge is a merge of declarations.
* `mem_mergeTables`: Every declaration has a table in the merge.
* `mergeOf_mem_mergedList`, `exists_mem_mergedList`, `mem_columnNames_mergedList`:
  The same of the tables without their keys.
* `find?_mergeTables_iff`, `nodup_names_mergedList`: The names stand for the keys.
* `plan_eq_flatMap`: The plan is made of the statements of these tables.
-/

namespace EventTables

/-- A declaration laid over what was put together from earlier ones. -/
def Table.over (t : Table) : Option Table → Table
  | none => t
  | some earlier => t.union earlier

/-- Declarations of one table laid over each other, the last one on top. -/
def layered (declared : List Table) : Option Table :=
  declared.foldl (fun earlier t => some (t.over earlier)) none

theorem layered_concat (declared : List Table) (t : Table) :
    layered (declared ++ [t]) = some (t.over (layered declared)) := by
  rw [layered, List.foldl_append]
  rfl

theorem mergedWith_eq (tables : Keyed String Table) (t : Table) :
    mergedWith tables t = t.over (tables.find? t.name) := by
  rw [mergedWith]
  cases tables.find? t.name <;> rfl

-- One more declaration changes only what is found under its own name.
theorem find?_mergeTable (tables : Keyed String Table) (t : Table) (name : String) :
    (mergeTable tables t).find? name =
      if t.name = name then some (t.over (tables.find? t.name)) else tables.find? name := by
  rw [mergeTable, Keyed.find?_put, mergedWith_eq]
  by_cases h : t.name = name
  · rw [if_pos (Std.compare_eq_iff_eq.mpr h.symm), if_pos h]
  · rw [if_neg fun heq => h (Std.compare_eq_iff_eq.mp heq).symm, if_neg h]

-- The merge so far matters to a name only by the table that it has under that
-- name.
theorem find?_foldl_mergeTable (declared : List Table) (tables : Keyed String Table)
    (name : String) :
    (declared.foldl mergeTable tables).find? name =
      (declared.filter (·.name == name)).foldl (fun earlier t => some (t.over earlier))
        (tables.find? name) := by
  induction declared generalizing tables with
  | nil => rfl
  | cons t rest ih =>
      rw [List.foldl_cons, ih, find?_mergeTable, List.filter_cons]
      by_cases h : t.name = name
      · rw [if_pos h, if_pos (beq_iff_eq.mpr h), List.foldl_cons, h]
      · rw [if_neg h, if_neg fun heq => h (beq_iff_eq.mp heq)]

/-- The table under a name is made of the declarations of that name. -/
theorem find?_mergeTables (declared : List Table) (name : String) :
    (mergeTables declared).find? name = layered (declared.filter (·.name == name)) :=
  find?_foldl_mergeTable declared [] name

theorem ascending_foldl_mergeTable (declared : List Table) (tables : Keyed String Table)
    (h : tables.Ascending) : (declared.foldl mergeTable tables).Ascending := by
  induction declared generalizing tables with
  | nil => exact h
  | cons t rest ih => exact ih _ (Keyed.ascending_put _ _ _ h)

theorem ascending_mergeTables (declared : List Table) : (mergeTables declared).Ascending :=
  ascending_foldl_mergeTable declared [] Keyed.ascending_nil

/-! ### Declarations of one table -/

/-- What a merged table has from its declarations. Its name, its unique groups
    and its first columns are those of a single declaration, and every other
    column is from some declaration too. -/
structure MergeOf (declared : List Table) (merged : Table) : Prop where
  top : ∃ t ∈ declared, merged.name = t.name ∧ merged.unique = t.unique ∧
    (∀ c ∈ t.columns, c ∈ merged.columns) ∧
    (t.columnNames.Nodup → merged.columnNames.Nodup)
  names : ∀ name, name ∈ merged.columnNames ↔ ∃ t ∈ declared, name ∈ t.columnNames
  columns : ∀ c ∈ merged.columns, ∃ t ∈ declared, c ∈ t.columns

theorem mergeOf_singleton (t : Table) : MergeOf [t] t where
  top := ⟨t, List.mem_singleton_self t, rfl, rfl, fun _ hc => hc, id⟩
  names name := by simp only [List.mem_singleton, exists_eq_left]
  columns c hc := ⟨t, List.mem_singleton_self t, hc⟩

-- One more declaration, laid over a merge of the others, is a merge of all.
theorem mergeOf_union (declared : List Table) (earlier t : Table)
    (h : MergeOf declared earlier) : MergeOf (declared ++ [t]) (t.union earlier) where
  top := ⟨t, List.mem_append_right _ (List.mem_singleton_self t), Table.union_name t earlier,
    Table.union_unique t earlier, Table.mem_columns_union_left t earlier,
    Table.nodup_union t earlier⟩
  names name := by
    simp only [Table.mem_columnNames_union, h.names, List.mem_append, List.mem_singleton,
      or_and_right, exists_or, exists_eq_left]
    exact or_comm
  columns c hc := by
    rcases Table.mem_columns_union t earlier c hc with hc | hc
    · exact ⟨t, List.mem_append_right _ (List.mem_singleton_self t), hc⟩
    · rcases h.columns c hc with ⟨d, hd, hcd⟩
      exact ⟨d, List.mem_append_left _ hd, hcd⟩

/-- The pass over the declarations of one table gives a table as soon as there is
    a declaration, and a merge of them. -/
theorem mergeOf_layered (declared : List Table) (hne : declared ≠ []) :
    ∃ merged, layered declared = some merged ∧ MergeOf declared merged := by
  -- The last declaration is on top, so the induction takes it off the end.
  induction declared using List.reverseRec with
  | nil => exact absurd rfl hne
  | append_singleton init t ih =>
      rw [layered_concat]
      refine ⟨_, rfl, ?_⟩
      by_cases hinit : init = []
      · rw [hinit]
        exact mergeOf_singleton t
      · rcases ih hinit with ⟨earlier, hearlier, hmerge⟩
        rw [hearlier]
        exact mergeOf_union init earlier t hmerge

/-! ### Declarations of all tables -/

/-- Every table of the merge is a merge of declarations of its name, and goes by
    that name. -/
theorem mergeOf_mem (declared : List Table) (name : String) (merged : Table)
    (hmem : (name, merged) ∈ mergeTables declared) :
    merged.name = name ∧ MergeOf (declared.filter (·.name == name)) merged := by
  rw [Keyed.mem_iff_find? _ _ _ (ascending_mergeTables declared), find?_mergeTables] at hmem
  have hne : declared.filter (·.name == name) ≠ [] := by
    intro hnil
    rw [hnil] at hmem
    exact absurd hmem (by simp only [layered, List.foldl_nil, reduceCtorEq, not_false_eq_true])
  rcases mergeOf_layered _ hne with ⟨merged', hlayered, hmerge⟩
  rw [hmem, Option.some.injEq] at hlayered
  subst hlayered
  rcases hmerge.top with ⟨t, ht, hname, _⟩
  exact ⟨hname.trans (beq_iff_eq.mp (List.mem_filter.mp ht).2), hmerge⟩

/-- Every declaration has a table in the merge. -/
theorem mem_mergeTables (declared : List Table) (t : Table) (ht : t ∈ declared) :
    ∃ merged, (mergeTables declared).find? t.name = some merged ∧
      (t.name, merged) ∈ mergeTables declared := by
  have hne : declared.filter (·.name == t.name) ≠ [] :=
    List.ne_nil_of_mem (List.mem_filter.mpr ⟨ht, beq_self_eq_true t.name⟩)
  rcases mergeOf_layered _ hne with ⟨merged, hlayered, _⟩
  rw [← find?_mergeTables] at hlayered
  exact ⟨merged, hlayered,
    (Keyed.mem_iff_find? _ _ _ (ascending_mergeTables declared)).mpr hlayered⟩

/-! ### The tables without their keys -/

/-- The merged tables of declarations. -/
def mergedList (declared : List Table) : List Table :=
  (mergeTables declared).map (·.2)

-- The declarations of a name.
theorem mem_declarations (declared : List Table) (name : String) (t : Table) :
    t ∈ declared.filter (·.name == name) ↔ t ∈ declared ∧ t.name = name := by
  rw [List.mem_filter, beq_iff_eq]

-- Every merged table is made of declarations of its name.
theorem mergeOf_mem_mergedList (declared : List Table) (merged : Table)
    (hmem : merged ∈ mergedList declared) :
    MergeOf (declared.filter (·.name == merged.name)) merged := by
  rcases List.mem_map.mp hmem with ⟨⟨name, merged'⟩, hentry, rfl⟩
  rcases mergeOf_mem declared name merged' hentry with ⟨rfl, hmerge⟩
  exact hmerge

-- No two merged tables have one name.
theorem eq_of_name_eq_mergedList (declared : List Table) (t u : Table)
    (ht : t ∈ mergedList declared) (hu : u ∈ mergedList declared) (hname : t.name = u.name) :
    t = u := by
  rcases List.mem_map.mp ht with ⟨⟨name, t'⟩, htmem, rfl⟩
  rcases List.mem_map.mp hu with ⟨⟨name', u'⟩, humem, rfl⟩
  have hsame : name = name' :=
    ((mergeOf_mem declared name t' htmem).1.symm.trans hname).trans
      (mergeOf_mem declared name' u' humem).1
  subst hsame
  rw [Keyed.mem_iff_find? _ _ _ (ascending_mergeTables declared)] at htmem humem
  exact Option.some.inj (htmem.symm.trans humem)

theorem find?_mergeTables_iff (declared : List Table) (name : String) (t : Table) :
    (mergeTables declared).find? name = some t ↔ t ∈ mergedList declared ∧ t.name = name := by
  rw [← Keyed.mem_iff_find? _ _ _ (ascending_mergeTables declared), mergedList, List.mem_map]
  constructor
  · intro h
    exact ⟨⟨(name, t), h, rfl⟩, (mergeOf_mem declared name t h).1⟩
  · rintro ⟨⟨⟨name', t'⟩, hmem, rfl⟩, hname⟩
    have hkey := (mergeOf_mem declared name' t' hmem).1
    rwa [← hname, hkey]

-- Every declaration is part of a merged table.
theorem exists_mem_mergedList (declared : List Table) (t : Table) (ht : t ∈ declared) :
    ∃ merged ∈ mergedList declared, merged.name = t.name := by
  rcases mem_mergeTables declared t ht with ⟨merged, _, hmem⟩
  exact ⟨merged, List.mem_map_of_mem hmem, (mergeOf_mem declared _ merged hmem).1⟩

theorem Config.plan_eq_flatMap (c : Config) :
    c.plan = (mergedList c.declaredTables).flatMap Table.statements := by
  rw [plan, mergedList, List.flatMap_map]
  rfl

-- The keys that were dropped are the names.
theorem nodup_names_mergedList (declared : List Table) :
    ((mergedList declared).map (·.name)).Nodup := by
  have hkeys : (mergedList declared).map (·.name) = (mergeTables declared).map (·.1) := by
    rw [mergedList, List.map_map]
    exact List.map_congr_left fun e he => (mergeOf_mem declared e.1 e.2 he).1
  rw [hkeys]
  exact Keyed.nodup_keys_of_ascending _ (ascending_mergeTables declared)

/-- Merged tables have exactly the declared columns. -/
theorem mem_columnNames_mergedList (declared : List Table) (table column : String) :
    (∃ t ∈ mergedList declared, t.name = table ∧ column ∈ t.columnNames) ↔
      ∃ t ∈ declared, t.name = table ∧ column ∈ t.columnNames := by
  constructor
  · rintro ⟨merged, hmem, rfl, hcolumn⟩
    rcases ((mergeOf_mem_mergedList declared merged hmem).names column).mp hcolumn with
      ⟨t, ht, hcolumn⟩
    rcases (mem_declarations declared _ t).mp ht with ⟨ht, hname⟩
    exact ⟨t, ht, hname, hcolumn⟩
  · rintro ⟨t, ht, rfl, hcolumn⟩
    rcases exists_mem_mergedList declared t ht with ⟨merged, hmem, hname⟩
    refine ⟨merged, hmem, hname, ?_⟩
    exact ((mergeOf_mem_mergedList declared merged hmem).names column).mpr
      ⟨t, (mem_declarations declared _ t).mpr ⟨ht, hname.symm⟩, hcolumn⟩

end EventTables
